import GridAuthz.Bytes

/-!
# Elements of the distinguished encoding rules

Every DER encoding is an element: an identifier octet, a length and that many bytes of
content. A reader accepts an element only in the one form a writer produces, with the length
in the fewest octets, so reading and writing are inverse to one another at this level.

The content of a constructed element is a list of elements (`Element.readAll?`).
-/

namespace GridAuthz.Der

/-! ### Tags -/

/-- The identifier octets of the universal types that are understood. -/
def universalOctets : List UInt8 :=
  [0x01, 0x02, 0x03, 0x04, 0x05, 0x06, 0x09, 0x0A, 0x0C, 0x12, 0x13, 0x14, 0x15, 0x16, 0x17,
   0x18, 0x1A, 0x1E, 0x30, 0x31]

/-- A tag of the other classes has a number below 31; a universal one is in the list. -/
def isTagOctet (octet : UInt8) : Bool :=
  if octet < 0x40 then universalOctets.contains octet else octet &&& 0x1F != 0x1F

/-- A tag in its one octet form. -/
structure Tag where
  /-- The identifier octet. -/
  octet : UInt8
  /-- The octet is one of those understood. -/
  isTag : isTagOctet octet = true
  deriving DecidableEq

namespace Tag

/-- The tag an identifier octet stands for. -/
def ofOctet? (octet : UInt8) : Option Tag :=
  if h : isTagOctet octet = true then some ⟨octet, h⟩ else none

/-- BOOLEAN. -/
def boolean : Tag := ⟨0x01, rfl⟩
/-- INTEGER. -/
def integer : Tag := ⟨0x02, rfl⟩
/-- BIT STRING. -/
def bitString : Tag := ⟨0x03, rfl⟩
/-- OCTET STRING. -/
def octetString : Tag := ⟨0x04, rfl⟩
/-- NULL. -/
def null : Tag := ⟨0x05, rfl⟩
/-- OBJECT IDENTIFIER. -/
def objectIdentifier : Tag := ⟨0x06, rfl⟩
/-- UTF8String. -/
def utf8String : Tag := ⟨0x0C, rfl⟩
/-- PrintableString. -/
def printableString : Tag := ⟨0x13, rfl⟩
/-- TeletexString. -/
def teletexString : Tag := ⟨0x14, rfl⟩
/-- IA5String. -/
def ia5String : Tag := ⟨0x16, rfl⟩
/-- UTCTime. -/
def utcTime : Tag := ⟨0x17, rfl⟩
/-- GeneralizedTime. -/
def generalizedTime : Tag := ⟨0x18, rfl⟩
/-- SEQUENCE and SEQUENCE OF. -/
def sequence : Tag := ⟨0x30, rfl⟩
/-- SET and SET OF. -/
def set : Tag := ⟨0x31, rfl⟩

theorem isTagOctet_context (n : Nat) : isTagOctet (0x80 + UInt8.ofNat (n % 31)) = true ∧
    isTagOctet (0xA0 + UInt8.ofNat (n % 31)) = true := by
  have small : ∀ k : Fin 31, isTagOctet (0x80 + UInt8.ofNat k) = true ∧
      isTagOctet (0xA0 + UInt8.ofNat k) = true := by decide
  exact small ⟨n % 31, Nat.mod_lt n (Nat.succ_pos 30)⟩

/-- The context specific tag `[n]` of a primitive encoding, for numbers below 31. -/
def contextPrimitive (n : Nat) : Tag := ⟨0x80 + UInt8.ofNat (n % 31), (isTagOctet_context n).1⟩

/-- The context specific tag `[n]` of a constructed encoding, for numbers below 31. -/
def contextConstructed (n : Nat) : Tag :=
  ⟨0xA0 + UInt8.ofNat (n % 31), (isTagOctet_context n).2⟩

/-- The number of a context specific tag. -/
def contextNumber? (tag : Tag) : Option Nat :=
  if tag.octet &&& 0xC0 = 0x80 then some (tag.octet &&& 0x1F).toNat else none

/-- Whether the content is itself a list of elements. -/
def isConstructed (tag : Tag) : Bool := tag.octet &&& 0x20 != 0

end Tag

/-! ### Lengths -/

/-- No encoding is longer than this, nor its content. -/
def maxLength : Nat := 0xFFFFFFF

/-- A length below 128 is one octet; a longer one is preceded by the number of its octets. -/
def encodeLength (n : Nat) : Bytes :=
  if n < 0x80 then [UInt8.ofNat n]
  else UInt8.ofNat (0x80 + Bytes.digitCount n) :: Bytes.ofNat n

/-- Reads a length of at most four octets off the front. Only the form that `encodeLength`
gives is accepted. -/
def readLength? : Bytes → Option (Nat × Bytes)
  | [] => none
  | head :: rest =>
    if head < 0x80 then some (head.toNat, rest)
    else
      let width := head.toNat - 0x80
      let n := Bytes.toNat (rest.take width)
      if encodeLength n = head :: rest.take width ∧ n ≤ maxLength then
        some (n, rest.drop width)
      else none

/-! ### Elements -/

/-- A tag with the bytes of its content. -/
structure Element where
  /-- The tag. -/
  tag : Tag
  /-- The content, without tag and length. -/
  content : Bytes
  deriving DecidableEq

namespace Element

/-- The bytes of an element. -/
def encode (e : Element) : Bytes :=
  e.tag.octet :: (encodeLength e.content.length ++ e.content)

/-- Reads one element off the front of a byte string. -/
def read? : Bytes → Option (Element × Bytes)
  | [] => none
  | octet :: rest => do
    let tag ← Tag.ofOctet? octet
    let (length, rest) ← readLength? rest
    if length ≤ rest.length then
      some (⟨tag, rest.take length⟩, rest.drop length)
    else none

/-- The element that a byte string is, with nothing after it. -/
def decode? (bs : Bytes) : Option Element :=
  match read? bs with
  | some (e, []) => some e
  | _ => none

/-- Reads elements until the byte string is used up, at most `fuel` of them. -/
def readUpTo? : (fuel : Nat) → Bytes → Option (List Element)
  | _, [] => some []
  | 0, _ :: _ => none
  | fuel + 1, bs => do
    let (e, rest) ← read? bs
    return e :: (← readUpTo? fuel rest)

/-- The elements that a byte string consists of. Each has at least one byte, so there are no
more of them than bytes. -/
def readAll? (bs : Bytes) : Option (List Element) := readUpTo? bs.length bs

/-- The bytes of a list of elements. -/
def encodeAll (es : List Element) : Bytes := es.flatMap encode

/-- The bytes of an element, unless they are too long for an encoding. -/
def encode? (e : Element) : Option Bytes :=
  let bs := e.encode
  if bs.length ≤ maxLength then some bs else none

/-- The content of an element with the given tag. -/
def contentOf? (tag : Tag) (e : Element) : Option Bytes :=
  if e.tag = tag then some e.content else none

/-- The elements inside an element with the given tag. -/
def fieldsOf? (tag : Tag) (e : Element) : Option (List Element) :=
  (e.contentOf? tag).bind readAll?

/-- A SEQUENCE of the given fields. -/
def sequence (fields : List Element) : Element := ⟨.sequence, encodeAll fields⟩

/-- The fields of a SEQUENCE. -/
def sequence? (e : Element) : Option (List Element) := e.fieldsOf? .sequence

/-- A SEQUENCE OF values, each written by `encode`. -/
def sequenceOf {α : Type} (encode : α → Element) (values : List α) : Element :=
  sequence (values.map encode)

/-- The values of a SEQUENCE OF, each read by `decode?`. -/
def sequenceOf? {α : Type} (decode? : Element → Option α) (e : Element) : Option (List α) :=
  e.sequence?.bind (·.mapM decode?)

/-- The same content under another tag, as IMPLICIT tagging has it. -/
def retag (tag : Tag) (e : Element) : Element := { e with tag }

/-- An element inside a constructed context specific tag, as EXPLICIT tagging has it. -/
def explicit (n : Nat) (e : Element) : Element := ⟨.contextConstructed n, e.encode⟩

/-- The element inside a constructed tag. -/
def explicit? (e : Element) : Option Element :=
  if e.tag.isConstructed then decode? e.content else none

/-- The element that IMPLICIT tagging hides, given the tag it had. The two tags agree on
whether the encoding is constructed. -/
def implicit? (tag : Tag) (e : Element) : Option Element :=
  if e.tag.isConstructed = tag.isConstructed then some (e.retag tag) else none

end Element

/-! ### Optional fields -/

/-- Reads an optional field at the front of a list of fields; it is there when the first field
satisfies `isThere`. -/
def takeOptional? {α : Type} (isThere : Element → Bool) (decode? : Element → Option α) :
    List Element → Option (Option α × List Element)
  | [] => some (none, [])
  | e :: rest => if isThere e then (decode? e).map (some ·, rest) else some (none, e :: rest)

/-- Reads the optional field `[n]` at the front of a list of fields. Context specific fields
with a lower number in front of it are skipped. -/
def takeContext? {α : Type} (n : Nat) (decode? : Element → Option α) :
    List Element → Option (Option α × List Element)
  | [] => some (none, [])
  | e :: rest =>
    match e.tag.contextNumber? with
    | none => some (none, e :: rest)
    | some k =>
      if n < k then some (none, e :: rest)
      else if k = n then (decode? e).map (some ·, rest)
      else takeContext? n decode? rest

/-- The optional field `[n] EXPLICIT`. -/
def takeExplicit? {α : Type} (n : Nat) (decode? : Element → Option α) :
    List Element → Option (Option α × List Element) :=
  takeContext? n fun e => e.explicit?.bind decode?

/-- The optional field `[n] IMPLICIT`, whose type has the tag `tag`. -/
def takeImplicit? {α : Type} (n : Nat) (tag : Tag) (decode? : Element → Option α) :
    List Element → Option (Option α × List Element) :=
  takeContext? n fun e => (e.implicit? tag).bind decode?

/-- An optional field with the universal tag `tag`. -/
def takeTagged? {α : Type} (tag : Tag) (decode? : Element → Option α) :
    List Element → Option (Option α × List Element) :=
  takeOptional? (fun e => e.tag = tag) decode?

end GridAuthz.Der
