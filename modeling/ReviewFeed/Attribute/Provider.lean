import ReviewFeed.Attribute.Fields

/-!
# Providers

A provider is the review server that an event came from.
-/

namespace ReviewFeed

/-- Identity of a review server. -/
structure Provider where
  name : Option String
  host : Option String
  port : Option String
  scheme : Option String
  url : Option String
  version : Option String
  deriving DecidableEq, Repr

namespace Provider

/-- The names of the fields, in order. -/
def fieldNames : List String := ["name", "host", "port", "scheme", "url", "version"]

def ofFields (fields : Fields) : Provider :=
  { name := fields.read "name" Json.string?
    host := fields.read "host" Json.string?
    port := fields.read "port" Json.string?
    scheme := fields.read "scheme" Json.string?
    url := fields.read "url" Json.string?
    version := fields.read "version" Json.string? }

def read? (value : Json) : Option Provider :=
  (Fields.ofJson? fieldNames value).map ofFields

def toJson (provider : Provider) : Json :=
  .object
    [("name", .ofOption .string provider.name),
      ("host", .ofOption .string provider.host),
      ("port", .ofOption .string provider.port),
      ("scheme", .ofOption .string provider.scheme),
      ("url", .ofOption .string provider.url),
      ("version", .ofOption .string provider.version)]

/-- A provider of which only the name is known. -/
def named (name : String) : Provider :=
  { name := some name, host := none, port := none, scheme := none, url := none
    version := none }

end Provider

end ReviewFeed
