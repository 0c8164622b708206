import BundleFinish.Files.Path
import Mathlib.Logic.Basic

/-! # The octets of a text

A text and its octets determine each other, and a slash among the octets is a slash of the text.
Reading octets with loss makes no slash that was not there, so what is read off a name can be part
of a name again. -/

namespace BundleFinish.Utf8

/-- A text is encoded character by character. -/
theorem encode_eq_flatMap (text : String) :
    encode text = text.toList.flatMap String.utf8EncodeChar := by
  calc encode text = encode (String.ofList text.toList) := by rw [String.ofList_toList]
    _ = text.toList.flatMap String.utf8EncodeChar := by
      rw [encode, String.toByteArray_ofList, List.utf8Encode]
      simp

/-- The octets of two texts in a row are the octets of their concatenation. -/
@[simp] theorem encode_append (a b : String) : encode (a ++ b) = encode a ++ encode b := by
  simp only [encode_eq_flatMap, String.toList_append, List.flatMap_append]

/-- Different texts have different octets. -/
theorem encode_injective : Function.Injective encode := by
  intro a b same
  have read := decode_encode a
  rw [same, decode_encode b] at read
  exact (Except.ok.inj read).symm

/-- Octets read as a text exactly when they are its octets. -/
theorem decode?_eq_some_iff {octets : Bytes} {text : String} :
    decode? octets = some text ↔ octets = encode text := by
  constructor
  · intro read
    unfold decode? decode at read
    rcases decoded : String.fromUTF8? ⟨octets.toArray⟩ with _ | other
    · rw [decoded] at read
      cases read
    · rw [decoded] at read
      obtain rfl : other = text := Option.some.inj read
      unfold String.fromUTF8? at decoded
      split at decoded
      · obtain rfl := Option.some.inj decoded
        rfl
      · cases decoded
  · rintro rfl
    simp [decode?, Except.toOption]

@[simp] theorem decode?_encode (text : String) : decode? (encode text) = some text :=
  decode?_eq_some_iff.mpr rfl

/-- An octet of ASCII appears only in the form of its own character. -/
theorem mem_utf8EncodeChar_of_ascii {octet : UInt8} (ascii : octet.toNat < 0x80) {c : Char} :
    octet ∈ String.utf8EncodeChar c ↔ c.val.toNat = octet.toNat := by
  have below : c.val.toNat < 4294967296 := c.val.toNat_lt
  -- Every octet of a longer form is at least 0x80.
  fun_cases String.utf8EncodeChar c <;>
    simp only [List.mem_cons, List.not_mem_nil, or_false, ← UInt8.toNat_inj, UInt8.toNat_ofNat'] <;>
    omega

/-- A character of ASCII is among the octets of a text exactly if it is in the text. -/
theorem mem_encode_of_ascii {octet : UInt8} {c : Char} (ascii : octet.toNat < 0x80)
    (code : c.val.toNat = octet.toNat) {text : String} :
    octet ∈ encode text ↔ c ∈ text.toList := by
  rw [encode_eq_flatMap, List.mem_flatMap]
  constructor
  · rintro ⟨other, member, inside⟩
    have same := (mem_utf8EncodeChar_of_ascii ascii).mp inside
    rwa [Char.ext (UInt32.toNat_inj.mp (code.trans same.symm))]
  · exact fun member => ⟨c, member, (mem_utf8EncodeChar_of_ascii ascii).mpr code⟩

/-- A text with no slash has none among its octets. -/
theorem slash_mem_encode {text : String} : Path.slash ∈ encode text ↔ '/' ∈ text.toList :=
  mem_encode_of_ascii (by decide) rfl

/-- A text with no dot has none among its octets. -/
theorem dot_mem_encode {text : String} : Path.dot ∈ encode text ↔ '.' ∈ text.toList :=
  mem_encode_of_ascii (by decide) rfl

/-- Only the code of a slash gives a slash. -/
theorem eq_of_ofNat_eq_slash {n : Nat} (slash : Char.ofNat n = '/') : n = 0x2f := by
  by_cases valid : n.isValidChar
  · rw [Char.ofNat, dif_pos valid] at slash
    exact congrArg Char.toNat slash
  · rw [Char.ofNat, dif_neg valid] at slash
    exact absurd (congrArg Char.toNat slash) (by decide)

/-- The character at the front of octets is a slash only where the first octet is one. -/
theorem ne_slash_of_front {lead : UInt8} {rest : Bytes} {c : Char} {width : Nat}
    (read : front lead rest = .scalar c width) (ne : lead ≠ Path.slash) : c ≠ '/' := by
  have code : lead.toNat ≠ 0x2f := fun same => ne (UInt8.toNat_inj.mp same)
  rintro rfl
  revert read
  fun_cases front lead rest <;> intro read <;> try cases read
  -- The ranges of the second octet leave no short code in a long form.
  case case1 => exact code (eq_of_ofNat_eq_slash (Front.scalar.inj read).1)
  case case3 =>
    have value := eq_of_ofNat_eq_slash (Front.scalar.inj read).1
    have first : 0xc2 ≤ lead.toNat ∧ lead.toNat ≤ 0xdf := by grind [announcedWidth]
    omega
  case case7 b _ c _ _ =>
    have value := eq_of_ofNat_eq_slash (Front.scalar.inj read).1
    have first : 0xe0 ≤ lead.toNat ∧ lead.toNat ≤ 0xef := by grind [announcedWidth]
    have second : lead.toNat = 0xe0 → 0xa0 ≤ b.toNat ∧ b.toNat ≤ 0xbf := by grind [secondRange]
    unfold payload at value
    omega
  case case13 b _ c _ d _ _ =>
    have value := eq_of_ofNat_eq_slash (Front.scalar.inj read).1
    have first : 0xf0 ≤ lead.toNat ∧ lead.toNat ≤ 0xf4 := by grind [announcedWidth]
    have second : lead.toNat = 0xf0 → 0x90 ≤ b.toNat ∧ b.toNat ≤ 0xbf := by grind [secondRange]
    unfold payload at value
    omega

/-- Reading without a slash among the octets gives none, wherever the reading starts. -/
theorem slash_not_mem_lossyChars (skip : Nat) {octets : Bytes} (none : Path.slash ∉ octets) :
    '/' ∉ lossyChars skip octets := by
  fun_induction lossyChars skip octets with
  | case1 => exact List.not_mem_nil
  | case2 lead rest skip ih => exact ih fun member => none (List.mem_cons_of_mem lead member)
  | case3 lead rest c width read ih =>
    rw [List.mem_cons, not_or]
    have ne : lead ≠ Path.slash := fun same => none (same ▸ List.mem_cons_self)
    exact ⟨(ne_slash_of_front read ne).symm,
      ih fun member => none (List.mem_cons_of_mem lead member)⟩
  | case4 lead rest width read ih =>
    rw [List.mem_cons, not_or]
    exact ⟨by decide, ih fun member => none (List.mem_cons_of_mem lead member)⟩
  | case5 => decide

/-- Reading octets with loss makes no slash. -/
theorem slash_not_mem_decodeLossy {octets : Bytes} (none : Path.slash ∉ octets) :
    '/' ∉ (decodeLossy octets).toList := by
  unfold decodeLossy
  rcases read : decode octets with cause | text
  · rw [String.toList_ofList]
    exact slash_not_mem_lossyChars 0 none
  · have same : octets = encode text := decode?_eq_some_iff.mp (by rw [decode?, read]; rfl)
    rw [same, slash_mem_encode] at none
    exact none

/-- Octets that are read with loss as no text at all are none. -/
theorem eq_nil_of_decodeLossy_eq {octets : Bytes} (empty : decodeLossy octets = "") :
    octets = [] := by
  unfold decodeLossy at empty
  rcases read : decode octets with cause | text
  · rw [read] at empty
    rcases octets with _ | ⟨lead, rest⟩
    · rfl
    · have chars := congrArg String.toList empty
      rw [String.toList_ofList, lossyChars] at chars
      split at chars <;> simp at chars
  · rw [read] at empty
    obtain rfl : text = "" := empty
    exact decode?_eq_some_iff.mp (by rw [decode?, read]; rfl)

end BundleFinish.Utf8

namespace BundleFinish.Path

variable {path : Path}

/-- A path that is text: its octets are those of one. -/
def IsText (path : Path) : Prop := (Utf8.decode? path.octets).isSome = true

instance (path : Path) : Decidable path.IsText := inferInstanceAs (Decidable (_ = true))

/-- A path that is text is spelled by it. -/
theorem isText_iff : path.IsText ↔ ∃ text, path = .ofString text := by
  rw [IsText, Option.isSome_iff_exists]
  refine exists_congr fun text => Utf8.decode?_eq_some_iff.trans ?_
  exact ⟨fun same => congrArg Path.mk same, congrArg Path.octets⟩

@[simp] theorem isText_ofString (text : String) : (ofString text).IsText :=
  isText_iff.mpr ⟨text, rfl⟩

/-- A path that is text is spelled by what is shown of it. -/
theorem IsText.ofString_display (isText : path.IsText) : ofString path.display = path := by
  obtain ⟨text, rfl⟩ := isText_iff.mp isText
  rw [display_ofString]

end BundleFinish.Path
