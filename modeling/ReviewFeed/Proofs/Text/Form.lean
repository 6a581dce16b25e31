import ReviewFeed.Proofs.Text.Utf8
import ReviewFeed.Text.Form

/-!
# Form encoding read back

A form decoder gives back every text that was encoded.  Encoded texts are spelled with
the plain characters, the plus and the percent sign, so that any other character can
separate them.
-/

namespace ReviewFeed.Form

/-- The bytes that an encoded text stands for: a plus is a space, a percent sign and two
hexadecimal digits are the byte that they name, and any other character stands for
itself. -/
def bytes : List Char → List UInt8
  | [] => []
  | '+' :: rest => 0x20 :: bytes rest
  | '%' :: high :: low :: rest =>
      match Text.readHex? [high, low] with
      | some byte => UInt8.ofNat byte :: bytes rest
      | none => 0x25 :: bytes (high :: low :: rest)
  | c :: rest => String.utf8EncodeChar c ++ bytes rest

/-- The text that an encoded text stands for. -/
def decode (encoded : List Char) : String :=
  String.ofList (Utf8.decodeLossy (bytes encoded))

/-- The characters of encoded texts. -/
def isSpelling (c : Char) : Bool :=
  isPlain c || c == '+' || c == '%'

theorem isPlain_hexDigitUpper {n : Nat} (digit : n < 16) :
    isPlain (Text.hexDigitUpper n) = true := by
  have all : ∀ n, n < 16 → isPlain (Text.hexDigitUpper n) = true := by decide
  exact all n digit

theorem readHex?_hexDigitsUpper {n : Nat} (byte : n < 256) :
    Text.readHex? [Text.hexDigitUpper (n / 16), Text.hexDigitUpper (n % 16)] = some n := by
  have all : ∀ high, high < 16 → ∀ low, low < 16 →
      Text.readHex? [Text.hexDigitUpper high, Text.hexDigitUpper low] =
        some (16 * high + low) := by
    decide
  rw [all (n / 16) (by omega) (n % 16) (by omega), Nat.div_add_mod]

theorem bytes_escapeByte (byte : UInt8) (rest : List Char) :
    bytes (escapeByte byte ++ rest) = byte :: bytes rest := by
  rw [escapeByte, List.cons_append, List.cons_append, List.singleton_append, bytes,
    readHex?_hexDigitsUpper byte.toNat_lt]
  exact congrArg (· :: bytes rest) UInt8.ofNat_toNat

theorem bytes_escapeBytes (escaped : List UInt8) (rest : List Char) :
    bytes (escaped.flatMap escapeByte ++ rest) = escaped ++ bytes rest := by
  induction escaped with
  | nil => rfl
  | cons byte escaped induction =>
      rw [List.flatMap_cons, List.append_assoc, bytes_escapeByte, induction, List.cons_append]

theorem bytes_plain {c : Char} (plain : isPlain c = true) (rest : List Char) :
    bytes (c :: rest) = String.utf8EncodeChar c ++ bytes rest := by
  rw [bytes]
  · rintro rfl
    exact absurd plain (by decide)
  · rintro high low more rfl
    exact absurd plain (by decide)

/-- Reading one encoded character leaves what follows to be read. -/
theorem bytes_encodeChar (c : Char) (rest : List Char) :
    bytes (encodeChar c ++ rest) = String.utf8EncodeChar c ++ bytes rest := by
  rw [encodeChar]
  split
  · rename_i plain
    exact bytes_plain plain rest
  · split
    · rename_i space
      cases eq_of_beq space
      rfl
    · exact bytes_escapeBytes _ rest

theorem bytes_encode (text : String) : bytes (encode text) = Utf8.encode text.toList := by
  rw [encode, Utf8.encode]
  induction text.toList with
  | nil => rfl
  | cons c chars induction =>
      rw [List.flatMap_cons, bytes_encodeChar, induction, List.flatMap_cons]

theorem decode_encode (text : String) : decode (encode text) = text := by
  rw [decode, bytes_encode, Utf8.decodeLossy_encode, String.ofList_toList]

theorem isSpelling_of_mem_escapeByte {byte : UInt8} {c : Char} (member : c ∈ escapeByte byte) :
    isSpelling c = true := by
  have fits := byte.toNat_lt
  rw [escapeByte] at member
  rcases List.mem_cons.mp member with rfl | digits
  · decide
  · rcases List.mem_cons.mp digits with rfl | last
    · simp [isSpelling, isPlain_hexDigitUpper (show byte.toNat / 16 < 16 by omega)]
    · cases List.mem_singleton.mp last
      simp [isSpelling, isPlain_hexDigitUpper (show byte.toNat % 16 < 16 by omega)]

theorem isSpelling_of_mem_encodeChar {c spelled : Char} (member : spelled ∈ encodeChar c) :
    isSpelling spelled = true := by
  rw [encodeChar] at member
  split at member
  · rename_i plain
    cases List.mem_singleton.mp member
    simp [isSpelling, plain]
  · split at member
    · cases List.mem_singleton.mp member
      decide
    · obtain ⟨byte, -, inside⟩ := List.mem_flatMap.mp member
      exact isSpelling_of_mem_escapeByte inside

/-- A character that is no part of the spelling can stand between encoded texts. -/
theorem not_mem_encode {c : Char} (foreign : isSpelling c = false) (text : String) :
    c ∉ encode text := by
  intro member
  obtain ⟨source, -, inside⟩ := List.mem_flatMap.mp member
  rw [isSpelling_of_mem_encodeChar inside] at foreign
  cases foreign

end ReviewFeed.Form
