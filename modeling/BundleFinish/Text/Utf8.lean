/-! # Octets and text

File contents and path names are octets of any kind; text is what decodes as UTF-8. Decoding either
gives the text or says where the first octets stand that begin no character (`DecodeError`). The
lossy reading puts the replacement character in the place of each such group. -/

namespace BundleFinish

/-- Octets of any kind. -/
abbrev Bytes := List UInt8

namespace Utf8

/-- The UTF-8 form of a text. -/
def encode (text : String) : Bytes := text.toByteArray.data.toList

/-- The number of octets of a run of characters. -/
def octetLength : List Char → Nat
  | [] => 0
  | c :: text => c.utf8Size + octetLength text

@[simp] theorem octetLength_nil : octetLength [] = 0 := rfl

@[simp] theorem octetLength_cons (c : Char) (text : List Char) :
    octetLength (c :: text) = c.utf8Size + octetLength text := rfl

@[simp] theorem octetLength_append (a b : List Char) :
    octetLength (a ++ b) = octetLength a + octetLength b := by
  induction a with
  | nil => simp
  | cons c a ih => simp [ih, Nat.add_assoc]

/-- What stands at the front of a non-empty run of octets. -/
inductive Front where
  /-- A character and the number of octets that make it up. -/
  | scalar (c : Char) (width : Nat)
  /-- Octets that begin no character. -/
  | broken (width : Nat)
  /-- The run ends inside a character. -/
  | cut
  deriving DecidableEq, Repr

/-- Whether an octet continues a character. -/
def isContinuation (octet : Nat) : Bool := 0x80 ≤ octet && octet ≤ 0xbf

/-- The octets that may follow a lead octet: the second octet of three- and four-octet forms is
restricted, so that no character has two forms and none is a surrogate or past the last plane. -/
def secondRange (lead : Nat) : Nat × Nat :=
  if lead = 0xe0 then (0xa0, 0xbf)
  else if lead = 0xed then (0x80, 0x9f)
  else if lead = 0xf0 then (0x90, 0xbf)
  else if lead = 0xf4 then (0x80, 0x8f)
  else (0x80, 0xbf)

/-- The number of octets that a lead octet announces, zero for an octet that leads nothing. -/
def announcedWidth (lead : Nat) : Nat :=
  if lead < 0x80 then 1
  else if 0xc2 ≤ lead ∧ lead ≤ 0xdf then 2
  else if 0xe0 ≤ lead ∧ lead ≤ 0xef then 3
  else if 0xf0 ≤ lead ∧ lead ≤ 0xf4 then 4
  else 0

/-- The payload of a continuation octet. -/
def payload (octet : UInt8) : Nat := octet.toNat % 0x40

/-- Read the character at the front of a run that begins with `lead`. -/
def front (lead : UInt8) (rest : Bytes) : Front :=
  let n := lead.toNat
  let (low, high) := secondRange n
  let fits := fun (octet : UInt8) => low ≤ octet.toNat && octet.toNat ≤ high
  match announcedWidth n with
  | 1 => .scalar (Char.ofNat n) 1
  | 2 =>
    match rest with
    | [] => .cut
    | b :: _ => if fits b then .scalar (Char.ofNat (n % 0x20 * 0x40 + payload b)) 2 else .broken 1
  | 3 =>
    match rest with
    | [] => .cut
    | b :: rest =>
      if fits b then
        match rest with
        | [] => .cut
        | c :: _ =>
          if isContinuation c.toNat then
            .scalar (Char.ofNat ((n % 0x10 * 0x40 + payload b) * 0x40 + payload c)) 3
          else .broken 2
      else .broken 1
  | 4 =>
    match rest with
    | [] => .cut
    | b :: rest =>
      if fits b then
        match rest with
        | [] => .cut
        | c :: rest =>
          if isContinuation c.toNat then
            match rest with
            | [] => .cut
            | d :: _ =>
              if isContinuation d.toNat then
                .scalar (Char.ofNat
                  (((n % 0x08 * 0x40 + payload b) * 0x40 + payload c) * 0x40 + payload d)) 4
              else .broken 3
          else .broken 2
      else .broken 1
  | _ => .broken 1

/-- Why octets are not text: the index of the first octet of the first group that begins no
character, and the width of that group, absent when the octets end inside a character. -/
structure DecodeError where
  index : Nat
  width : Option Nat
  deriving DecidableEq, Repr

namespace DecodeError

/-- The error in words. -/
def message (error : DecodeError) : String :=
  match error.width with
  | some width => s!"invalid utf-8 sequence of {width} bytes from index {error.index}"
  | none => s!"incomplete utf-8 byte sequence from index {error.index}"

end DecodeError

/-- The first place, counted from `index`, where the octets are not text; `skip` octets of a
character that was already read come first. -/
def firstError (index skip : Nat) : Bytes → DecodeError
  | [] => ⟨index, none⟩
  | lead :: rest =>
    match skip with
    | skip + 1 => firstError (index + 1) skip rest
    | 0 =>
      match front lead rest with
      | .scalar _ width => firstError (index + 1) (width - 1) rest
      | .broken width => ⟨index, some width⟩
      | .cut => ⟨index, none⟩

/-- Read octets as text. -/
def decode (octets : Bytes) : Except DecodeError String :=
  match String.fromUTF8? ⟨octets.toArray⟩ with
  | some text => .ok text
  | none => .error (firstError 0 0 octets)

/-- Read octets as text, when they are text. -/
def decode? (octets : Bytes) : Option String :=
  (decode octets).toOption

/-- Characters of a run of octets, with the replacement character for every group that begins none;
`skip` octets that were already read come first. -/
def lossyChars (skip : Nat) : Bytes → List Char
  | [] => []
  | lead :: rest =>
    match skip with
    | skip + 1 => lossyChars skip rest
    | 0 =>
      match front lead rest with
      | .scalar c width => c :: lossyChars (width - 1) rest
      | .broken width => '\uFFFD' :: lossyChars (width - 1) rest
      | .cut => ['\uFFFD']

/-- Read octets as text, with the replacement character for what is not text. -/
def decodeLossy (octets : Bytes) : String :=
  match decode octets with
  | .ok text => text
  | .error _ => String.ofList (lossyChars 0 octets)

/-- Text written as octets reads back. -/
@[simp] theorem decode_encode (text : String) : decode (encode text) = .ok text := by
  have valid : ({ data := text.toByteArray.data } : ByteArray).IsValidUTF8 := text.isValidUTF8
  simp [decode, encode, String.fromUTF8?, valid, String.fromUTF8]

/-- Text written as octets is read without loss. -/
@[simp] theorem decodeLossy_encode (text : String) : decodeLossy (encode text) = text := by
  simp [decodeLossy]

end Utf8

end BundleFinish
