/-
Patterns of the shell, and the fields that expanded words fall into.

A glyph is a character that knows whether it was quoted: only glyphs that were not
mean more than themselves in a pattern.
-/
import DecoderBench.Shell.CharacterClass

namespace DecoderBench.Shell

/-- A character, and whether it was quoted. -/
structure Glyph where
  char : Char
  quoted : Bool
  deriving DecidableEq

/-- The glyphs of a text. -/
def glyphs (quoted : Bool) (s : String) : List Glyph := s.toList.map fun c => ⟨c, quoted⟩

/-- The text of some glyphs. -/
def textOf (gs : List Glyph) : String := String.ofList (gs.map (·.char))

/-! ## Patterns -/

/-- A member of a bracket. -/
inductive Member
  | range (first last : Char)
  | kind (k : CharacterClass)

/-- An element of a pattern. -/
inductive Element
  | one (c : Char)
  | any
  | many
  /-- One character that is a member, or one that is none. -/
  | among (negated : Bool) (members : List Member)

/-- Whether a glyph is a character that means more than itself. -/
def Glyph.means (g : Glyph) (c : Char) : Bool := g.char == c && !g.quoted

/-- The class that is named after an opening bracket within a bracket, with its colons and
the bracket that closes it; and what follows. Only the letters may be quoted. -/
def classAt? (gs : List Glyph) : Option (CharacterClass × List Glyph) :=
  CharacterClass.named.findSome? fun x =>
    let sign := (":" ++ x.1 ++ ":]").toList
    let own := gs.take sign.length
    if own.map (·.char) == sign && own.all (fun g => !g.quoted || g.char.isAlpha) then
      some (x.2, gs.drop sign.length)
    else none

theorem classAt?_length {gs : List Glyph} {s : CharacterClass × List Glyph}
    (h : classAt? gs = some s) : s.2.length ≤ gs.length := by
  obtain ⟨x, -, hx⟩ := List.exists_of_findSome?_eq_some h
  simp only at hx
  split at hx
  · cases hx
    simp
  · cases hx

/-- The members of a bracket up to the one that closes it, and what follows. A closing
bracket that comes first is a member. -/
def members? (first : Bool) : List Glyph → Option (List Member × List Glyph)
  | [] => none
  | g :: r =>
    if g.means ']' && !first then some ([], r)
    else
      match _h : if g.means '[' then classAt? r else none with
      | some s => (members? false s.2).map fun t => (.kind s.1 :: t.1, t.2)
      | none =>
        match r with
        | h :: e :: r =>
          if h.means '-' && !e.means ']' then
            (members? false r).map fun s => (.range g.char e.char :: s.1, s.2)
          else (members? false (h :: e :: r)).map fun s => (.range g.char g.char :: s.1, s.2)
        | r => (members? false r).map fun s => (.range g.char g.char :: s.1, s.2)
termination_by gs => gs.length
decreasing_by
  all_goals simp only [List.length_cons]
  all_goals try omega
  split at _h
  · have := classAt?_length _h
    omega
  · cases _h

theorem members?_length {first : Bool} {gs : List Glyph} {s : List Member × List Glyph}
    (h : members? first gs = some s) : s.2.length < gs.length := by
  fun_induction members? first gs generalizing s with
  | case1 => cases h
  | case2 => cases h; simp
  | case3 _ _ _ _ _ hc ih =>
    obtain ⟨t, ht, rfl⟩ := Option.map_eq_some_iff.1 h
    have := ih ht
    split at hc
    · have := classAt?_length hc
      simp only [List.length_cons]
      omega
    · cases hc
  | _ =>
    rename_i ih
    obtain ⟨t, ht, rfl⟩ := Option.map_eq_some_iff.1 h
    have := ih ht
    simp only [List.length_cons] at this ⊢
    omega

/-- Whether a bracket's members are negated, and the glyphs after the sign. -/
def negated : List Glyph → Bool × List Glyph
  | [] => (false, [])
  | g :: r => if g.means '!' then (true, r) else (false, g :: r)

theorem negated_length (gs : List Glyph) : (negated gs).2.length ≤ gs.length := by
  unfold negated
  split
  · exact Nat.le_refl _
  · split <;> simp

/-- The elements of a pattern. A bracket that is never closed is a character. -/
def elements : List Glyph → List Element
  | [] => []
  | g :: r =>
    if g.quoted then .one g.char :: elements r
    else if g.char == '*' then .many :: elements r
    else if g.char == '?' then .any :: elements r
    else if g.char == '[' then
      match _h : members? true (negated r).2 with
      | some s => .among (negated r).1 s.1 :: elements s.2
      | none => .one '[' :: elements r
    else .one g.char :: elements r
termination_by gs => gs.length
decreasing_by
  all_goals simp only [List.length_cons]
  all_goals try omega
  have := members?_length _h
  have := negated_length r
  omega

/-- The place of a character in ranges, where those beyond ASCII come first. -/
def rank (c : Char) : Nat := (c.toNat + 128) % 256

/-- Whether a character is a member. -/
def Member.admits (m : Member) (c : Char) : Bool :=
  match m with
  | .range first last => decide (rank first ≤ rank c) && decide (rank c ≤ rank last)
  | .kind k => k.admits c

/-- Whether a character is an element's. -/
def Element.admits (e : Element) (c : Char) : Bool :=
  match e with
  | .one d => c == d
  | .any => true
  | .many => true
  | .among negated members => (members.any fun m => m.admits c) != negated

/-- All suffixes of a text, the longest first. -/
def suffixes : List Char → List (List Char)
  | [] => [[]]
  | c :: r => (c :: r) :: suffixes r

/-- Whether elements match all of a text. -/
def matchAll : List Element → List Char → Bool
  | [], cs => cs.isEmpty
  | .many :: es, cs => (suffixes cs).any (matchAll es)
  | _ :: _, [] => false
  | e :: es, c :: cs => e.admits c && matchAll es cs

/-- Glyphs where a backslash that is not quoted quotes the next one. -/
def unescaped : List Glyph → List Glyph
  | ⟨'\\', false⟩ :: g :: r => ⟨g.char, true⟩ :: unescaped r
  | g :: r => g :: unescaped r
  | [] => []

/-- Whether some glyphs, as a pattern, match a text. -/
def matchesPattern (pattern : List Glyph) (s : String) : Bool :=
  matchAll (elements (unescaped pattern)) s.toList

/-- Whether any glyph makes a pattern of its field. -/
def isPattern (gs : List Glyph) : Bool :=
  (unescaped gs).any fun g => !g.quoted && (g.char == '*' || g.char == '?' || g.char == '[')

/-- `s` without its longest or shortest start that matches. -/
def dropStart (longest : Bool) (pattern : List Glyph) (s : String) : String :=
  let cuts := List.range (s.length + 1)
  let cuts := if longest then cuts.reverse else cuts
  match cuts.find? fun k => matchesPattern pattern (String.ofList (s.toList.take k)) with
  | some k => String.ofList (s.toList.drop k)
  | none => s

/-- `s` without its longest or shortest end that matches. -/
def dropEnd (longest : Bool) (pattern : List Glyph) (s : String) : String :=
  let cuts := List.range (s.length + 1)
  let cuts := if longest then cuts else cuts.reverse
  match cuts.find? fun k => matchesPattern pattern (String.ofList (s.toList.drop k)) with
  | some k => String.ofList (s.toList.take k)
  | none => s

/-! ## Fields -/

/-- A piece of an expanded word. -/
inductive Chunk
  /-- Glyphs that stay together. -/
  | fixed (gs : List Glyph)
  /-- A value outside of quotes, which falls apart at separators. -/
  | loose (s : String)
  /-- Texts that are to be fields of their own, and what joins them where they cannot be. -/
  | separate (mark : String) (ss : List String)
  /-- Values outside of quotes, each of which falls apart on its own. -/
  | scattered (mark : String) (ss : List String)

/-- The fields that are complete, and the one that has begun. -/
structure Fields where
  complete : List (List Glyph) := []
  begun : Option (List Glyph) := none
  /-- Whether a blank ended the last field, so that a separator may belong to its end. -/
  ending : Bool := false

namespace Fields

/-- Ends the field that has begun. -/
def close (f : Fields) : Fields := ⟨f.complete ++ f.begun.toList, none, false⟩

/-- Adds glyphs to the field, which they begin if need be. -/
def extend (f : Fields) (gs : List Glyph) : Fields :=
  ⟨f.complete, some (f.begun.getD [] ++ gs), false⟩

/-- Adds a character of a loose value. Blanks that end a field do so together with one
separator among them, every other separator ends a field of its own. -/
def addLoose (separators : List Char) (f : Fields) (c : Char) : Fields :=
  if !separators.contains c then f.extend [⟨c, false⟩]
  else if c == ' ' || c == '\t' || c == '\n' then
    if f.begun.isSome then { f.close with ending := true } else f
  else if f.ending then { f with ending := false }
  else (f.extend []).close

/-- Adds a piece. -/
def add (separators : List Char) (f : Fields) (chunk : Chunk) : Fields :=
  match chunk with
  | .fixed gs => f.extend gs
  | .loose s => s.toList.foldl (addLoose separators) f
  | .separate _ [] => f
  | .separate _ (s :: ss) =>
    ss.foldl (fun f s => f.close.extend (glyphs true s)) (f.extend (glyphs true s))
  | .scattered _ [] => f
  | .scattered _ (s :: ss) =>
    ss.foldl (fun f s => s.toList.foldl (addLoose separators) f.close)
      (s.toList.foldl (addLoose separators) f)

/-- The fields that pieces make. -/
def of (separators : List Char) (chunks : List Chunk) : List (List Glyph) :=
  (chunks.foldl (add separators) {}).close.complete

end Fields

/-- The glyphs of pieces where a word stays in one piece. -/
def joined (chunks : List Chunk) : List Glyph :=
  chunks.flatMap fun
    | .fixed gs => gs
    | .loose s => glyphs false s
    | .separate mark ss => glyphs true (mark.intercalate ss)
    | .scattered mark ss => glyphs false (mark.intercalate ss)

end DecoderBench.Shell
