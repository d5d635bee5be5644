import ResilientHttp.Network.Pem

/-!
Root certificates. A text gives certificates as armoured sections; other sections and text without
any are passed over. A certificate is taken as a root if it has the shape of one: tagged elements
with their lengths, nested as a certificate is. One that tells its version has the third, names the
same signing rule inside and outside of what is signed, and may have extensions, of which each known
kind stands once and holds what it should; one that tells none ends behind its key.
-/

namespace ResilientHttp.Certificate

/-- A tagged element and what follows it. -/
structure Element where
  tag : UInt8
  content : Octets
  later : Octets
  deriving DecidableEq, Repr

/-- The number that octets write, the greatest place first. -/
def number (octets : Octets) : Nat := octets.foldl (fun value octet => value * 256 + octet.toNat) 0

/-- What every element is shorter than. -/
def lengthLimit : Nat := 65535

/-- The content of an element with a given length, if there is that much. -/
def cut? (tag : UInt8) (length : Nat) (octets : Octets) : Option Element :=
  if length < lengthLimit ∧ length ≤ octets.length then
    some ⟨tag, octets.take length, octets.drop length⟩
  else none

/-- The element that comes first, with its length in the shortest form. -/
def element? : Octets → Option Element
  | tag :: length :: later =>
    if length < 0x80 then cut? tag length.toNat later
    else if length = 0x81 then do
      let value := number (later.take 1)
      if 0x80 ≤ value then cut? tag value (later.drop 1) else none
    else if length = 0x82 then do
      let value := number (later.take 2)
      if 2 ≤ later.length ∧ 0x100 ≤ value then cut? tag value (later.drop 2) else none
    else none
  | _ => none

/-- The content of the first element if it has a given tag, and what follows it. -/
def tagged? (tag : UInt8) (octets : Octets) : Option (Octets × Octets) := do
  let element ← element? octets
  if element.tag = tag then some (element.content, element.later) else none

/-- The content of the only element, which has a given tag. -/
def only? (tag : UInt8) (octets : Octets) : Option Octets :=
  match tagged? tag octets with
  | some (content, []) => some content
  | _ => none

/-- The contents of elements with given tags that come one after the other, and what follows. -/
def elements? : List UInt8 → Octets → Option (List Octets × Octets)
  | [], octets => some ([], octets)
  | tag :: tags, octets => do
    let (content, later) ← tagged? tag octets
    let (contents, later) ← elements? tags later
    some (content :: contents, later)

/-- The tag of a truth value. -/
def truthTag : UInt8 := 0x01

/-- The tag of a whole number. -/
def integerTag : UInt8 := 0x02

/-- The tag of a string of bits. -/
def bitsTag : UInt8 := 0x03

/-- The tag of a string of octets. -/
def octetsTag : UInt8 := 0x04

/-- The tag of the name of a kind. -/
def kindTag : UInt8 := 0x06

/-- The tag of a sequence. -/
def sequenceTag : UInt8 := 0x30

/-- The tag of the version in front of a certificate's fields. -/
def versionTag : UInt8 := 0xA0

/-- The tag of the extensions behind a certificate's fields. -/
def extensionsTag : UInt8 := 0xA3

/-- The only version that is told: the third one, counted from zero. -/
def version : Octets := [integerTag, 1, 2]

/-- The fields that every certificate has behind its version: number, signing rule, issuer, term,
subject and key. -/
def fieldTags : List UInt8 :=
  [integerTag, sequenceTag, sequenceTag, sequenceTag, sequenceTag, sequenceTag]

/-- An extension: the name of its kind and its value. -/
structure Extension where
  kind : Octets
  value : Octets
  deriving DecidableEq, Repr

/-- What stands behind the mark of an extension that has to be understood, if there is one. -/
def behindMark? (octets : Octets) : Option Octets :=
  if octets.head? = some truthTag then
    match tagged? truthTag octets with
    | some ([0x00], later) => some later
    | some ([0xFF], later) => some later
    | _ => none
  else some octets

/-- The extension that an element's content is. -/
def Extension.ofContent? (content : Octets) : Option Extension := do
  let (kind, later) ← tagged? kindTag content
  let value ← only? octetsTag (← behindMark? later)
  some ⟨kind, value⟩

/-- The kind of the extension that tells what a key is used for. -/
def usageKind : Octets := [0x55, 0x1D, 15]

/-- The kinds of extensions whose value is one sequence: other names, whether more may be signed,
which names may be, where lists of revoked ones are, and further uses. -/
def sequenceKinds : List Octets :=
  [17, 19, 30, 31, 37].map fun number => [0x55, 0x1D, number]

/-- Whether an extension of a known kind holds what it should. -/
def Extension.isSound (extension : Extension) : Bool :=
  !sequenceKinds.contains extension.kind || (only? sequenceTag extension.value).isSome

/-- Whether no known kind stands twice. -/
def areDistinct (extensions : List Extension) : Bool :=
  (usageKind :: sequenceKinds).all fun kind => (extensions.map (·.kind)).count kind ≤ 1

/-- The extensions one after the other. -/
def extensions? (octets : Octets) : Option (List Extension) :=
  if octets = [] then some []
  else
    match _ : element? octets with
    | some element =>
      if element.tag = sequenceTag ∧ element.later.length < octets.length then do
        let extension ← Extension.ofContent? element.content
        let others ← extensions? element.later
        some (extension :: others)
      else none
    | none => none
termination_by octets.length

/-- Whether what stands behind the fields is nothing, or sound extensions and nothing else. -/
def endsSoundly (octets : Octets) : Bool :=
  octets = [] ||
    match (only? extensionsTag octets).bind (only? sequenceTag) with
    | some content =>
      match extensions? content with
      | some extensions => extensions.all Extension.isSound && areDistinct extensions
      | none => false
    | none => false

/-- Whether the fields of a certificate, which a given rule signs, are those of a root. -/
def areFields (rule fields : Octets) : Bool :=
  match tagged? versionTag fields with
  | some (content, later) =>
    match elements? fieldTags later with
    | some (_ :: inner :: _, behind) =>
      content = version && inner = rule && endsSoundly behind
    | _ => false
  | none =>
    match elements? fieldTags fields with
    | some (_, []) => true
    | _ => false

/-- Whether octets have the shape of a root certificate. -/
def isCertificate (octets : Octets) : Bool :=
  match (only? sequenceTag octets).bind (elements? [sequenceTag, sequenceTag, bitsTag]) with
  | some ([fields, rule, signature], []) => signature.head? = some 0 && areFields rule fields
  | _ => false

/-- The label of a certificate's section. -/
def label : List Char := "CERTIFICATE".toList

/-- Whether all certificates of a text can be roots. -/
def isUsable (text : String) : Bool :=
  match Pem.sections? text with
  | some blocks => blocks.all fun block => block.label ≠ label || isCertificate block.content
  | none => false

end ResilientHttp.Certificate
