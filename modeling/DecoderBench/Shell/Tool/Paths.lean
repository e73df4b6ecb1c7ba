/-
Tools that print parts of paths.
-/
import DecoderBench.Shell.Tool

namespace DecoderBench.Shell.Tool

/-- The last part of a path. -/
def lastPart (s : String) : String :=
  let parts := (s.splitOn "/").filter fun t => !t.isEmpty
  parts.getLast?.getD (if s.isEmpty then "" else "/")

/-- A name without an ending, unless it is nothing but that. -/
def withoutEnding (ending s : String) : String :=
  if s != ending && s.endsWith ending then (s.dropEnd ending.length).toString else s

/-- Prints the last part of a path, without an ending that it may have. -/
def basename : Tool :=
  let g : Grammar :=
    { flags := "az", valued := "s", operandsLast := true,
      long := [("multiple", 'a'), ("suffix", 's'), ("zero", 'z')] }
  withOptions g fun name options operands p =>
    let tell (p : Process) (s : String) : Process :=
      if options.given 'z' then p.emit 1 (bytesOf s ++ [0]) else p.say s
    if options.given 'a' || options.given 's' then
      forEach (fun p s => tell p (withoutEnding ((options.last? 's').getD "") (lastPart s)))
        operands p
    else
      match operands with
      | [] => misuse name "missing operand" 1 p
      | [s] => (tell p (lastPart s)).ends 0
      | [s, ending] => (tell p (withoutEnding ending (lastPart s))).ends 0
      | _ :: _ :: extra :: _ => misuse name ("extra operand " ++ cited extra) 1 p

/-- A path without its last part. -/
def directoryPart (s : String) : String :=
  let parts := Text.dropTrailing (·.isEmpty) (s.splitOn "/")
  if parts.isEmpty then (if s.isEmpty then "." else "/")
  else
    let above := parts.dropLast
    if above.isEmpty then "."
    else
      let above := Text.dropTrailing (·.isEmpty) above
      if above.isEmpty then "/" else "/".intercalate above

/-- Prints paths without their last parts. -/
def dirname : Tool :=
  withOptions { flags := "z", long := [("zero", 'z')] } fun name options operands p =>
    if operands.isEmpty then misuse name "missing operand" 1 p
    else
      forEach (fun p s =>
        if options.given 'z' then p.emit 1 (bytesOf (directoryPart s) ++ [0])
        else p.say (directoryPart s)) operands p

end DecoderBench.Shell.Tool
