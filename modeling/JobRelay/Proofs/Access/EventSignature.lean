import JobRelay.Access.WebhookSignature

/-! # Which headers sign an event

The header of a payment event is read by trimming it, taking the mark off, reading digits two by two
and comparing bytes. What passes all this can be said without any reader: the mark and the code of
the body, written in sixty-four digits of either letter case, with nothing but blanks around.
-/

namespace JobRelay

/-- The digits in which a code may be written. -/
def codeDigits : List Char := "0123456789abcdefABCDEF".toList

/-- A text that is a code written out, two digits for each byte in either letter case. -/
structure WritesCode (digits : List Char) (code : List UInt8) : Prop where
  length : digits.length = 2 * code.length
  hexadecimal : ∀ c ∈ digits, c ∈ codeDigits
  same : digits.map Char.toLower = Text.Hex.encodeChars code

/-- Whatever stands for a digit is one of those in which a code may be written. -/
private theorem mem_codeDigits {c : Char} {code : List UInt8}
    (lower : c.toLower ∈ Text.Hex.encodeChars code) : c ∈ codeDigits := by
  obtain ⟨n, small, same⟩ := Text.Hex.exists_of_mem_encodeChars lower
  have value : Text.Hex.value? c = some n := by
    rw [← Text.Hex.value?_toLower, same, Text.Hex.value?_digit small]
  have ascii : ∀ m < 103, (Text.Hex.value? (Char.ofNat m)).isSome → Char.ofNat m ∈ codeDigits := by
    decide
  have listed := ascii c.toNat (Text.Hex.toNat_lt_of_value? value)
  rw [Char.ofNat_toNat] at listed
  exact listed (by rw [value]; rfl)

/-- A text that can be read as a code is that code written out, and the other way round. -/
private theorem writesCode_iff {digits : List Char} {code : List UInt8} :
    WritesCode digits code ↔ Text.Hex.decode? digits = some code := by
  rw [Text.Hex.decode?_eq_some_iff]
  refine ⟨WritesCode.same, fun same => ⟨?_, ?_, same⟩⟩
  · rw [← Text.Hex.length_encodeChars, ← same, List.length_map]
  · intro c member
    exact mem_codeDigits (same ▸ List.mem_map_of_mem member)

/-- Neither the mark nor a digit is blank. -/
private theorem isBlank_marked {digits : List Char} (hexadecimal : ∀ c ∈ digits, c ∈ codeDigits) :
    ∀ c ∈ webhookMark ++ digits, Text.isBlank c = false := by
  have mark : webhookMark.all (!Text.isBlank ·) := by decide
  have solid : codeDigits.all (!Text.isBlank ·) := by decide
  simp only [List.all_eq_true, Bool.not_eq_true'] at mark solid
  exact List.forall_mem_append.mpr ⟨mark, fun c member => solid c (hexadecimal c member)⟩

/-- A header is read behind its mark once the blanks around it are off. -/
theorem webhookSignatureHolds_iff_trim {secret : String} {body : List UInt8} {header : String} :
    webhookSignatureHolds secret body header ↔ secret ≠ "" ∧ ∃ digits,
      (Text.trim header).toList = webhookMark ++ digits ∧
        WritesCode digits (Hmac.code (utf8 secret) body) := by
  unfold webhookSignatureHolds
  split
  · rename_i empty
    simp [String.isEmpty_iff.mp empty]
  rename_i given
  have present : secret ≠ "" := fun none => given (by rw [none]; rfl)
  split
  · rename_i unmarked
    refine ⟨nofun, fun ⟨_, digits, chars, _⟩ => ?_⟩
    rw [chars, Text.dropPrefix?_append] at unmarked
    cases unmarked
  · rename_i digits marked
    have chars := Text.eq_append_of_dropPrefix? marked
    have told : (∃ digits, (Text.trim header).toList = webhookMark ++ digits ∧
        WritesCode digits (Hmac.code (utf8 secret) body)) ↔
          Text.Hex.decode? digits = some (Hmac.code (utf8 secret) body) := by
      rw [chars]
      simp [writesCode_iff]
    rw [told]
    split
    · rename_i unread
      simp [unread]
    · rename_i code read
      simp [read, present]

/-- A header signs a body exactly if there is a secret and the header is the mark and the code of
the body under it, in sixty-four digits of either letter case, with nothing but blanks around. -/
theorem webhookSignatureHolds_iff (secret : String) (body : List UInt8) (header : String) :
    webhookSignatureHolds secret body header ↔ secret ≠ "" ∧ ∃ before digits after,
      header.toList = before ++ "sha256=".toList ++ digits ++ after ∧
        (∀ c ∈ before ++ after, Text.isBlank c) ∧ digits.length = 64 ∧
          WritesCode digits (Hmac.code (utf8 secret) body) := by
  rw [webhookSignatureHolds_iff_trim]
  refine and_congr_right fun _ => ⟨?_, ?_⟩
  · rintro ⟨digits, chars, writes⟩
    obtain ⟨before, after, blank, whole⟩ := Text.exists_trim header
    refine ⟨before, digits, after, ?_, blank, ?_, writes⟩
    · rw [whole, chars, ← List.append_assoc]
      rfl
    · rw [writes.length, Hmac.length_code]
  · rintro ⟨before, digits, after, whole, blank, _, writes⟩
    refine ⟨digits, Text.trim_of_solid ?_ blank (isBlank_marked writes.hexadecimal), writes⟩
    rw [whole, List.append_assoc before]
    rfl

end JobRelay
