/-!
# Punycode

Labels of characters beyond ASCII in ASCII letters, digits and hyphens (RFC 3492). The characters
of ASCII come first; the others follow as distances between them in order of their numbers, each
in digits of base 36 whose thresholds adapt to the distances so far.
-/
namespace RegistryConsole.Url.Punycode

def digit (n : Nat) : Char :=
  if n < 26 then Char.ofNat ('a'.toNat + n) else Char.ofNat ('0'.toNat + n - 26)

def digitValue? (c : Char) : Option Nat :=
  if c.isLower then some (c.toNat - 'a'.toNat)
  else if c.isUpper then some (c.toNat - 'A'.toNat)
  else if c.isDigit then some (c.toNat - '0'.toNat + 26)
  else none

/-- The threshold of the digit at a position. -/
def threshold (position bias : Nat) : Nat :=
  if position ≤ bias then 1 else if bias + 26 ≤ position then 26 else position - bias

private def shrink (delta steps : Nat) : Nat × Nat :=
  if 455 < delta then shrink (delta / 35) (steps + 36) else (delta, steps)
termination_by delta
decreasing_by exact Nat.div_lt_self (by omega) (by omega)

/-- The bias after a distance, with the count of characters so far. -/
def adapt (delta count : Nat) (first : Bool) : Nat :=
  let delta := if first then delta / 700 else delta / 2
  let (delta, steps) := shrink (delta + delta / count) 0
  steps + 36 * delta / (delta + 38)

/-- The digits of a distance; `fuel` bounds their number. -/
def encodeDistance (bias : Nat) : Nat → Nat → Nat → List Char
  | 0, _, _ => []
  | fuel + 1, position, n =>
    let t := threshold position bias
    if n < t then [digit n]
    else
      digit (t + (n - t) % (36 - t)) ::
        encodeDistance bias fuel (position + 36) ((n - t) / (36 - t))

/-- What has been written and where the next distance starts from. -/
structure Writing where
  out : List Char
  delta : Nat
  bias : Nat
  handled : Nat

/-- Passes one character of the label while the characters numbered `next` are written. -/
def Writing.step (basic next : Nat) (w : Writing) (c : Char) : Writing :=
  if c.toNat < next then { w with delta := w.delta + 1 }
  else if c.toNat = next then
    { out := w.out ++ encodeDistance w.bias (w.delta + 1) 36 w.delta
      delta := 0
      bias := adapt w.delta (w.handled + 1) (w.handled = basic)
      handled := w.handled + 1 }
  else w

/-- Writes the characters of each number in turn. -/
def Writing.run (label : List Char) (basic : Nat) : Nat → List Nat → Writing → Writing
  | _, [], w => w
  | from_, next :: rest, w =>
    let w := { w with delta := w.delta + (next - from_) * (w.handled + 1) }
    let w := label.foldl (step basic next) w
    run label basic (next + 1) rest { w with delta := w.delta + 1 }

def encode (label : List Char) : List Char :=
  let basic := label.filter (·.toNat < 0x80)
  let others := ((label.filter (0x80 ≤ ·.toNat)).map Char.toNat).mergeSort.eraseReps
  let w := Writing.run label basic.length 0x80 others ⟨[], 0, 72, basic.length⟩
  (if basic.isEmpty then [] else basic ++ ['-']) ++ w.out

/-- The digits of a distance read from the front: the sum and what follows. -/
def decodeDistance (bias : Nat) : Nat → Nat → Nat → List Char → Option (Nat × List Char)
  | _, _, _, [] => none
  | position, weight, sum, c :: rest =>
    match digitValue? c with
    | none => none
    | some d =>
      let t := threshold position bias
      let sum := sum + d * weight
      if d < t then some (sum, rest) else decodeDistance bias (position + 36) (weight * (36 - t)) sum rest

def insertAt (place : Nat) (c : Char) (s : List Char) : List Char :=
  s.take place ++ c :: s.drop place

/-- Puts the characters of the distances in place; `fuel` bounds their number. -/
def decodeFrom : Nat → Nat → Nat → Nat → List Char → List Char → Option (List Char)
  | 0, _, _, _, _, _ => none
  | _, _, _, _, out, [] => some out
  | fuel + 1, number, place, bias, out, input =>
    match decodeDistance bias 36 1 place input with
    | none => none
    | some (sum, rest) =>
      let count := out.length + 1
      let number := number + sum / count
      let place' := sum % count
      if number.isValidChar then
        decodeFrom fuel number (place' + 1) (adapt (sum - place) count (place = 0))
          (insertAt place' (Char.ofNat number) out) rest
      else none

/-- The label that a text of ASCII characters spells. -/
def decode? (s : List Char) : Option (List Char) :=
  let backwards := s.reverse
  let tail := (backwards.takeWhile (· ≠ '-')).reverse
  let basic := ((backwards.dropWhile (· ≠ '-')).drop 1).reverse
  if basic.all (·.toNat < 0x80) then decodeFrom (s.length + 1) 0x80 0 72 basic tail else none

end RegistryConsole.Url.Punycode
