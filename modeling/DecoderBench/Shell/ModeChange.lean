/-
Changes of what users may do with a file, as they are written: clauses that name
users, a sign, and letters for rights.
-/
import DecoderBench.Workspace.Mode

namespace DecoderBench.Shell.ModeChange

/-- The number that octal digits are. -/
def octal (cs : List Char) : Nat := cs.foldl (fun n c => n * 8 + (c.toNat - '0'.toNat)) 0

/-- All that users may do whom letters name, if there are any, and what follows. -/
def users (cs : List Char) : Option Mode × List Char :=
  let who := cs.takeWhile ("ugoa".toList.contains ·)
  let chosen (c : Char) : Rights :=
    if who.contains c || who.contains 'a' then ⟨true, true, true⟩ else ⟨false, false, false⟩
  (if who.isEmpty then none else some ⟨chosen 'u', chosen 'g', chosen 'o'⟩, cs.drop who.length)

/-- The rights that letters name. -/
def rights (cs : List Char) : Rights := ⟨cs.contains 'r', cs.contains 'w', cs.contains 'x'⟩

/-- A mode after rights are added, taken away, or set, of those that a change is about. -/
def apply (sign : Char) (about value m : Mode) : Mode :=
  let value := value.common about
  if sign == '+' then m.union value
  else if sign == '-' then m.without value
  else (m.without about).union value

/-- The changes after the users of a clause. Without any, all are meant, but what new files do
not get is left alone, except where rights are set. -/
def steps (mask : Mode) (who : Option Mode) : Nat → List Char → Mode → Option Mode
  | 0, _, m => some m
  | _, [], m => some m
  | n + 1, sign :: r, m =>
    let own := r.takeWhile ("rwxXst".toList.contains ·)
    let copied := if own.isEmpty then r.takeWhile ("ugo".toList.contains ·) else []
    let of (c : Char) : Rights :=
      if c == 'u' then m.owner else if c == 'g' then m.group else m.others
    let value : Rights :=
      copied.foldl (fun v c => v.union (of c))
        { rights own with runs := own.contains 'x' || (own.contains 'X' && m.isRunnable) }
    let value := if who.isNone then (Mode.forAll value).without mask else .forAll value
    if ['+', '-', '='].contains sign then
      steps mask who n (r.drop (own.length + copied.length)) (apply sign (who.getD .full) value m)
    else none

/-- The mode after a change, given what new files do not get; `none` if it is no change. -/
def result? (mask : Mode) (change : String) (m : Mode) : Option Mode :=
  let cs := change.toList
  if !cs.isEmpty && cs.all (fun c => '0' ≤ c && c ≤ '7') then
    if 4 < (cs.dropWhile (· == '0')).length then none else some (.ofNumber (octal cs))
  else
    (change.splitOn ",").foldlM (fun m clause =>
      let (who, rest) := users clause.toList
      if rest.isEmpty then none else steps mask who (rest.length + 1) rest m) m

end DecoderBench.Shell.ModeChange
