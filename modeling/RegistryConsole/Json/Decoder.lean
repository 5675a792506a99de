import RegistryConsole.Json.Mismatch
/-!
# Decoding

From JSON values to typed ones. A record is read from an object by its keys, or from an array of
its fields in their order; unknown keys are passed over. Of several faults of an object the one
under the least key is reported, and a missing field only when all that are there fit.
-/
namespace RegistryConsole.Json

abbrev Decoder (α : Type) := Json → Except Mismatch α

def wrongType (wanted : Wanted) (v : Json) : Except Mismatch α :=
  .error (.wrongType (.of v) wanted)

def decodeString : Decoder String
  | .string s => .ok s
  | v => wrongType .text v

def decodeBool : Decoder Bool
  | .bool b => .ok b
  | v => wrongType .boolean v

/-- A whole number below `2 ^ bits`. -/
def decodeUnsigned (bits : Nat) : Decoder Nat
  | .number (.whole n) =>
    if 0 ≤ n && n < Nat.pow 2 bits then .ok n.toNat
    else .error (.wrongValue (.number (.whole n)) (.unsigned bits))
  | v => wrongType (.unsigned bits) v

/-- A whole number from `-2 ^ (bits - 1)` to below `2 ^ (bits - 1)`. -/
def decodeSigned (bits : Nat) : Decoder Int
  | .number (.whole n) =>
    if -(Nat.pow 2 (bits - 1) : Int) ≤ n && n < Nat.pow 2 (bits - 1) then .ok n
    else .error (.wrongValue (.number (.whole n)) (.signed bits))
  | v => wrongType (.signed bits) v

def decodeOption (decode : Decoder α) : Decoder (Option α)
  | .null => .ok none
  | v => (decode v).map some

def decodeItems (decode : Decoder α) : List Json → Except Mismatch (List α)
  | [] => .ok []
  | v :: rest => do
    let a ← decode v
    let as ← decodeItems decode rest
    return a :: as

def decodeList (decode : Decoder α) : Decoder (List α)
  | .array items => decodeItems decode items
  | v => wrongType .sequence v

def decodeInstant : Decoder Instant
  | .string s =>
    match Instant.lenient s.toList with
    | .ok t => .ok t
    | .error cause => .error (.badInstant cause)
  | v => wrongType .instant v

def decodeAny : Decoder Json := .ok

/-- One field of a record under construction. -/
structure RecordField (ρ : Type) where
  key : String
  /-- A field without a default has to be there. -/
  required : Bool
  read : Json → ρ → Except Mismatch ρ

/-- The field of a key, read by `decode` and put in place by `set`. -/
def field (key : String) (decode : Decoder α) (set : α → ρ → ρ) : RecordField ρ :=
  ⟨key, true, fun v r => (decode v).map (set · r)⟩

def RecordField.optional (f : RecordField ρ) : RecordField ρ :=
  { f with required := false }

/-- Reads the members of an object in turn into the fields of their keys. -/
def readMembersInto (fields : List (RecordField ρ)) : List (String × Json) → ρ → Except Mismatch ρ
  | [], r => .ok r
  | (key, v) :: rest, r =>
    match fields.find? (·.key = key) with
    | some f => do
      let r ← f.read v r
      readMembersInto fields rest r
    | none => readMembersInto fields rest r

/-- The first required field without a member. -/
def missing? (fields : List (RecordField ρ)) (members : List (String × Json)) : Option String :=
  (fields.find? fun f => f.required && (members.lookup f.key).isNone).map (·.key)

/-- A record from the members of an object, on top of its defaults. -/
def decodeMembers (fields : List (RecordField ρ)) (defaults : ρ) (members : List (String × Json)) :
    Except Mismatch ρ := do
  let r ← readMembersInto fields members defaults
  match missing? fields members with
  | some key => .error (.missingField key)
  | none => return r

/-- Reads items in turn into the fields of their places; returns the items left over. -/
def readItemsInto (wanted : WantedLength) :
    Nat → List (RecordField ρ) → List Json → ρ → Except Mismatch (ρ × List Json)
  | _, [], rest, r => .ok (r, rest)
  | place, f :: fields, v :: rest, r => do
    let r ← f.read v r
    readItemsInto wanted (place + 1) fields rest r
  | place, f :: fields, [], r =>
    if f.required then .error (.wrongLength place wanted)
    else readItemsInto wanted (place + 1) fields [] r

/-- A record from an object or an array. -/
def decodeRecord (name : String) (fields : List (RecordField ρ)) (defaults : ρ) : Decoder ρ
  | .object members => decodeMembers fields defaults members
  | .array items => do
    let (r, rest) ← readItemsInto (.record name fields.length) 0 fields items defaults
    if rest.isEmpty then return r else .error (.wrongLength items.length .fewerItems)
  | v => wrongType (.record name) v

end RegistryConsole.Json
