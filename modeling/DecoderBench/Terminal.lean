/-
Styles of terminal text, as ANSI escape sequences.

A styled text is the sequence that starts the style, the text, and the sequence
that ends all styles. An end inside the text would cut the style short, so the
style is started again after each of them. `strip` takes all such sequences out
of a text.
-/
namespace DecoderBench.Terminal

/-- The styles that reports use. -/
inductive Style
  | header
  | dimmed
  | warning
  | success
  deriving DecidableEq

/-- The escape character. -/
def escape : Char := '\x1b'

/-- The parameters of a style: bold blue, faint, yellow, green. -/
def Style.parameters : Style → List Char
  | .header => ['1', ';', '3', '4']
  | .dimmed => ['2']
  | .warning => ['3', '3']
  | .success => ['3', '2']

/-- The sequence with the given parameters. -/
def sequence (parameters : List Char) : List Char := escape :: '[' :: (parameters ++ ['m'])

/-- The sequence that starts a style. -/
def Style.start (s : Style) : List Char := sequence s.parameters

/-- The sequence that ends all styles. -/
def reset : List Char := sequence ['0']

/-- `t` with `start` put after each end of all styles in it. -/
def restart (start : List Char) : List Char → List Char
  | '\x1b' :: '[' :: '0' :: 'm' :: r => reset ++ start ++ restart start r
  | c :: r => c :: restart start r
  | [] => []

/-- `s` in a style. -/
def Style.paint (style : Style) (s : String) : String :=
  String.ofList (style.start ++ restart style.start s.toList ++ reset)

/-! ## Without styles -/

/-- What follows the parameters and the end of a style sequence. -/
def afterParameters? : List Char → Option (List Char)
  | [] => none
  | c :: r =>
    if c == 'm' then some r
    else if c.isDigit || c == ';' then afterParameters? r
    else none

theorem afterParameters?_length {t r : List Char} (h : afterParameters? t = some r) :
    r.length < t.length := by
  fun_induction afterParameters? t with
  | case1 => cases h
  | case2 c r => cases h; exact Nat.lt_succ_self _
  | case3 c r _ _ ih => exact Nat.lt_succ_of_lt (ih h)
  | case4 => cases h

/-- `t` without its style sequences, which are looked for once and from the left. -/
def strip : List Char → List Char
  | [] => []
  | '\x1b' :: '[' :: r =>
    match _h : afterParameters? r with
    | some rest => strip rest
    | none => escape :: '[' :: strip r
  | c :: r => c :: strip r
termination_by t => t.length
decreasing_by
  · have := afterParameters?_length _h
    simp only [List.length_cons]
    omega
  · simp only [List.length_cons]
    omega
  · exact Nat.lt_succ_self _

end DecoderBench.Terminal
