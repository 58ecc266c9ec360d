import Paydesk.Address.Escape
import Paydesk.Text.Split

/-!
# Paths of addresses

A path is steps with a slash in front of each. In its normal form no step stays where it is or goes
back; only a step that names a drive is not gone back from. The path of a file names a drive in
front with a colon, and it has no empty steps there.
-/

namespace Paydesk.Address

/-! ## Steps -/

/-- A step that stays where it is. -/
def isStay (step : List Char) : Bool :=
  [".".toList, "%2e".toList].contains (step.map Char.toLower)

/-- A step that goes back one step. -/
def isBack (step : List Char) : Bool :=
  ["..".toList, ".%2e".toList, "%2e.".toList, "%2e%2e".toList].contains (step.map Char.toLower)

/-- The mark of a drive behind its letter. -/
def isDriveMark (c : Char) : Bool :=
  c = ':' || c = '|'

/-- A step that names a drive: a letter and a mark. -/
def isDrive : List Char → Bool
  | [letter, mark] => letter.isAlpha && isDriveMark mark
  | _ => false

/-- A step that is not gone back from: it names a drive, and a backslash may follow the name. -/
def isHeld (step : List Char) : Bool :=
  isDrive (step.take 2) && (step.drop 2).head?.all (· == '\\')

/-- The steps without the last one, unless that is not gone back from. -/
def goBack (done : List (List Char)) : List (List Char) :=
  if done.getLast?.any isHeld then done else done.dropLast

/-- The steps that are done and one more. A path that ends in a step which stays or goes back ends
in a slash. -/
def addStep (done : List (List Char)) (isLast : Bool) (step : List Char) : List (List Char) :=
  let last := if isLast then [[]] else []
  if isBack step then goBack done ++ last
  else if isStay step then done ++ last
  else done ++ [escape isPathChar step]

/-- The steps in normal form, after those that are done. -/
def normalSteps : List (List Char) → List (List Char) → List (List Char)
  | done, [] => done
  | done, step :: rest => normalSteps (addStep done rest.isEmpty step) rest

/-- The steps of a path that is read from behind its first slash. -/
def stepsOf (cs : List Char) : List (List Char) :=
  normalSteps [] (Text.splitOn '/' cs)

/-- Steps with a slash in front of each. -/
def stepsText (steps : List (List Char)) : List Char :=
  steps.flatMap fun step => '/' :: step

/-! ## Breaks -/

/-- A tab or the end of a line; it divides nothing and is passed over. -/
def isBreak (c : Char) : Bool :=
  c = '\t' || c = '\n' || c = '\r'

/-- The text without its breaks. -/
def withoutBreaks (cs : List Char) : List Char :=
  cs.filter fun c => !isBreak c

/-! ## Files -/

/-- The path of a file as far as it is read: its steps, and whether the first one is a drive. -/
structure FilePath where
  steps : List (List Char)
  onDrive : Bool

namespace FilePath

/-- The drive that a step names in front of a break, and what follows the break. -/
def cutDrive? (raw : List Char) : Option (List Char × List Char) :=
  let name := raw.takeWhile fun c => c != ':'
  match withoutBreaks name, raw.drop name.length with
  | [letter], colon :: after :: rest =>
    if letter.isAlpha && isBreak after && !(withoutBreaks rest).isEmpty then
      some ([letter, colon], withoutBreaks rest)
    else none
  | _, _ => none

/-- The path and one more step, which may hold breaks. If the first step names a drive it is on that
drive; a step that only begins with the name of a drive and a break is two steps, and the second one
is taken as it is. -/
def add (p : FilePath) (isLast : Bool) (raw : List Char) : FilePath :=
  match p.steps, withoutBreaks raw, cutDrive? raw with
  | [], [letter, mark], _ =>
    if isDrive [letter, mark] then ⟨[[letter, ':']], true⟩
    else { p with steps := addStep [] isLast [letter, mark] }
  | [], _, some (drive, step) => { p with steps := [drive, escape isPathChar step] }
  | done, step, _ => { p with steps := addStep done isLast step }

/-- The path with the steps that follow. -/
def addAll : FilePath → List (List Char) → FilePath
  | p, [] => p
  | p, raw :: rest => addAll (p.add rest.isEmpty raw) rest

/-- The path that a text names from behind its first slash. -/
def ofChars (cs : List Char) : FilePath :=
  addAll ⟨[], false⟩ (Text.splitOn '/' cs)

def toText (p : FilePath) : List Char :=
  '/' :: (stepsText p.steps).dropWhile fun c => c = '/'

end FilePath

end Paydesk.Address
