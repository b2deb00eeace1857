import KeyspaceLink.Text.Base64
import KeyspaceLink.Text.Case
import KeyspaceLink.Text.Split

/-! Stores of certificates and keys: sections between marked lines, each with a label and
octets in base 64. Sections of labels that are not known are passed over. -/

namespace KeyspaceLink.Pem

inductive Kind
  | certificate
  | privateKey
  | other
deriving DecidableEq, Repr

def kinds : List (String × Kind) :=
  [("CERTIFICATE", .certificate), ("PRIVATE KEY", .privateKey), ("RSA PRIVATE KEY", .privateKey),
   ("EC PRIVATE KEY", .privateKey), ("PUBLIC KEY", .other), ("X509 CRL", .other),
   ("CERTIFICATE REQUEST", .other), ("ECHCONFIG", .other)]

structure Item where
  kind : Kind
  content : List UInt8
deriving DecidableEq, Repr

def dashes : List Char := ['-', '-', '-', '-', '-']
def beginMark : List Char := dashes ++ ['B', 'E', 'G', 'I', 'N', ' ']
def endMark (label : List Char) : List Char := dashes ++ ['E', 'N', 'D', ' '] ++ label ++ dashes

/-- The label between a mark and five dashes, which spaces may follow or part. -/
def label? (s : List Char) : Option (List Char) :=
  let ending := s.reverse.takeWhile fun c => c == '-' || c == ' '
  let marks := (ending.reverse.dropWhile (· == ' ')).length
  if ending.count '-' == 5 then some (s.take (s.length - marks)) else none

/-- The items read, the label of the section that is open, and the digits since the last item. -/
structure Reading where
  items : List Item := []
  label : Option (List Char) := none
  digits : List Char := []

namespace Reading

/-- Closes a section; the digits of a known one must be base 64. -/
def close (r : Reading) (label : List Char) : Option Reading :=
  match kinds.lookup (.ofList label) with
  | none => some { items := r.items }
  | some kind => (readBase64? r.digits).map fun content => { items := r.items ++ [⟨kind, content⟩] }

def line (r : Reading) (s : List Char) : Option Reading :=
  match dropStart? beginMark s, r.label with
  | some rest, _ => (label? rest).map fun label => { r with label := some label }
  | none, none => some r
  | none, some label =>
    if (dropStart? (endMark label) s).isSome then r.close label
    else some { r with digits := r.digits ++ s }

end Reading

/-- The items of a store; the last section must be closed. -/
def read? (bytes : List UInt8) : Option (List Item) := do
  let text := bytes.map fun b => Char.ofNat b.toNat
  let r ← (pieces (fun c => c == '\n' || c == '\r') text).foldlM Reading.line {}
  if r.label.isNone then some r.items else none

/-- The length told after a tag, in as few octets as can be, and what follows. -/
def length? : List UInt8 → Option (Nat × List UInt8)
  | [] => none
  | a :: s =>
    if a < 0x80 then some (a.toNat, s)
    else
      let size := a.toNat - 0x80
      let n := (s.take size).foldl (fun n b => n * 256 + b.toNat) 0
      let short := if size == 1 then 0x80 else Nat.pow 256 (size - 1)
      if 1 ≤ size && size ≤ s.length && short ≤ n then some (n, s.drop size) else none

/-- Whether octets are one sequence, as every certificate and every key is. -/
def isSequence : List UInt8 → Bool
  | 0x30 :: s => (length? s).any fun (n, rest) => n == rest.length
  | _ => false

/-- The certificates of a store, of which there may be none. -/
def certificates? (bytes : List UInt8) : Option (List (List UInt8)) :=
  (read? bytes).map fun items =>
    (items.filter fun i => i.kind == .certificate).map Item.content

/-- The first certificate and the last key of a store that holds such items alone. -/
def identity? (bytes : List UInt8) : Option (List (List UInt8)) := do
  let items ← read? bytes
  let certificate ← items.find? fun i => i.kind == .certificate
  let key ← items.reverse.find? fun i => i.kind == .privateKey
  if items.any fun i => i.kind == .other then none else some [certificate.content, key.content]

end KeyspaceLink.Pem
