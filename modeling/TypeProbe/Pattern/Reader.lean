import TypeProbe.Pattern.Class

/-! # Reading patterns

A pattern is read from left to right, with a stack of the groups that are still open
(`step?`); a group holds the alternatives read so far and the parts of the current one.

* Flags that are set in the middle of a group hold up to its end, in later alternatives too.
* A repetition applies to the part in front of it, which may be a repetition itself.
* Look-around, references to groups, unknown escapes and two groups of one name are errors.
* Parts nest at most 250 deep, and repetitions written out stay below a size. -/

namespace TypeProbe.Pattern

/-- A part of an alternative, with the depth to which parts nest in it. -/
structure Part where
  node : Node
  depth : Nat

/-- A group whose closing parenthesis has not been read, or the pattern as a whole. -/
structure Group where
  flags : Flags
  /-- The finished alternatives, backwards. -/
  alternatives : List Part
  /-- The parts of the current alternative, backwards; `none` stands for a setting of flags. -/
  parts : List (Option Part)

namespace Group

/-- A group in which nothing has been read. -/
def start (flags : Flags) : Group := ⟨flags, [], []⟩

def add (g : Group) (part : Part) : Group := { g with parts := some part :: g.parts }

/-- Adds a part with no parts of its own. -/
def leaf (g : Group) (node : Node) : Group := g.add ⟨node, 0⟩

/-- Adds a literal character. -/
def literal (g : Group) (c : Char) : Group := g.leaf (.chars (g.flags.close (.single c)))

/-- The current alternative as a part. -/
def alternative (g : Group) : Part :=
  let depth := (g.parts.map fun p => p.elim 0 (·.depth)).foldl max 0
  ⟨(g.parts.filterMap (·.map (·.node))).foldl (fun rest node => .concat node rest) .empty,
    if g.parts.length ≤ 1 then depth else depth + 1⟩

/-- Ends the current alternative. -/
def divide (g : Group) : Group :=
  { g with alternatives := g.alternative :: g.alternatives, parts := [] }

/-- All alternatives as a part. -/
def result (g : Group) : Part :=
  let last := g.alternative
  let depth := (g.alternatives.map (·.depth)).foldl max last.depth
  ⟨g.alternatives.foldl (fun rest part => .either part.node rest) last.node,
    if g.alternatives.isEmpty then depth else depth + 1⟩

/-- Repeats the last part. -/
def repeated (g : Group) (least : Nat) (most : Option Nat) : Option Group :=
  match g.parts with
  | some part :: parts =>
      let part := ⟨.repeated part.node least most, part.depth + 1⟩
      some { g with parts := some part :: parts }
  | _ => none

end Group

/-! ### Repetition counts -/

/-- The upper limit of counts. -/
def countLimit : Nat := 0x100000000

/-- A count: decimal digits, with white space around them. -/
def count? (verbose : Bool) (s : List Char) : Option (Nat × List Char) :=
  let (digits, rest) := takeAll verbose Char.isDigit (s.dropWhile Character.isSpace)
  let n := digits.foldl (fun n c => 10 * n + hexValue c) 0
  if digits.isEmpty || countLimit ≤ n then none else some (n, rest.dropWhile Character.isSpace)

/-- A repetition in braces, after the opening brace: the least and the greatest count. -/
def counts? (verbose : Bool) (s : List Char) : Option (Nat × Option Nat × List Char) := do
  let (least, s) ← count? verbose (skipBlanks verbose s)
  match skipBlanks verbose s with
  | '\x7d' :: s => some (least, some least, s)
  | ',' :: s =>
      match skipBlanks verbose s with
      | '\x7d' :: s => some (least, none, s)
      | s => do
          let (most, s) ← count? verbose s
          match skipBlanks verbose s with
          | '\x7d' :: s => if least ≤ most then some (least, some most, s) else none
          | _ => none
  | _ => none

/-- Skips the mark of a repetition that prefers few rounds: it decides nothing about whether
there is a match. -/
def skipLazy : List Char → List Char
  | '?' :: s => s
  | s => s

/-! ### Groups -/

/-- Whether a character can stand in the name of a group. -/
def isNameChar (first : Bool) (c : Char) : Bool :=
  if first then c == '_' || (Character.isWord c && !Character.isDigit c)
  else Character.isWord c || c == '.' || c == '[' || c == ']'

/-- The name of a group, and what follows the bracket that ends it. -/
def groupName? (s : List Char) : Option (List Char × List Char) :=
  match s.takeWhile (· != '>'), s.dropWhile (· != '>') with
  | c :: name, '>' :: rest =>
      if isNameChar true c && name.all (isNameChar false) then some (c :: name, rest) else none
  | _, _ => none

/-- Flags up to a colon or a closing parenthesis.  No flag is given twice, a hyphen turns off
those after it, and there is only one hyphen, which has flags after it. -/
def flags? (f : Flags) (on : Bool) (seen : List Char) : List Char → Option (Flags × List Char)
  | [] => none
  | c :: s =>
    if c == ':' || c == ')' then
      if seen.head? == some '-' then none else some (f, c :: s)
    else if seen.contains c then none
    else if c == '-' then flags? f false (c :: seen) s
    else do flags? (← f.set? on c) on (c :: seen) s

/-! ### The machine -/

/-- What has been read of a pattern: the open groups, innermost first, and the names given. -/
structure Reading where
  top : Group
  outer : List Group
  names : List (List Char)

namespace Reading

/-- Nothing has been read. -/
def start : Reading := ⟨.start .none, [], []⟩

/-- Changes the innermost group. -/
def update (st : Reading) (top : Group) : Reading := { st with top }

/-- Opens a group. -/
def enter (st : Reading) (flags : Flags) : Reading :=
  { st with top := .start flags, outer := st.top :: st.outer }

/-- Closes the innermost group. -/
def leave (st : Reading) : Option Reading :=
  match st.outer with
  | [] => none
  | g :: outer =>
      let part := st.top.result
      some { st with top := g.add ⟨part.node, part.depth + 1⟩, outer }

/-- Opens a group with a name. -/
def enterNamed? (st : Reading) (s : List Char) : Option (Reading × List Char) := do
  let (name, rest) ← groupName? s
  if st.names.contains name then none
  else some ({ st.enter st.top.flags with names := name :: st.names }, rest)

/-- Reads what follows an opening parenthesis. -/
def group? (st : Reading) (s : List Char) : Option (Reading × List Char) :=
  match skipBlanks st.top.flags.verbose s with
  | '?' :: '=' :: _ | '?' :: '!' :: _ | '?' :: '<' :: '=' :: _ | '?' :: '<' :: '!' :: _ => none
  | '?' :: 'P' :: '<' :: s => st.enterNamed? s
  | '?' :: '<' :: s => st.enterNamed? s
  | '?' :: s => do
      let (flags, rest) ← flags? st.top.flags true [] s
      match rest with
      | ':' :: rest => some (st.enter flags, rest)
      | _ :: rest =>
          if s.head? == some ')' then none
          else some (st.update { st.top with flags, parts := none :: st.top.parts }, rest)
      | [] => none
  | s => some (st.enter st.top.flags, s)

/-- Reads an escape, after the backslash. -/
def escape? (st : Reading) (s : List Char) : Option (Reading × List Char) := do
  let (e, rest) ← Pattern.escape? st.top.flags.verbose s
  match e with
  | .literal c => some (st.update (st.top.literal c), rest)
  | .set set => some (st.update (st.top.leaf (.chars set)), rest)
  | .assertion condition => some (st.update (st.top.leaf (.assertion condition)), rest)

/-- Reads a part of a pattern, without blanks in front of it. -/
def step? (st : Reading) : List Char → Option (Reading × List Char)
  | [] => none
  | '(' :: s => st.group? s
  | ')' :: s => st.leave.map (·, s)
  | '|' :: s => some (st.update st.top.divide, s)
  | '[' :: s => do
      let (set, depth, rest) ← class? st.top.flags s
      some (st.update (st.top.add ⟨.chars set, depth⟩), rest)
  | '?' :: s => (st.top.repeated 0 (some 1)).map fun g => (st.update g, skipLazy s)
  | '*' :: s => (st.top.repeated 0 none).map fun g => (st.update g, skipLazy s)
  | '+' :: s => (st.top.repeated 1 none).map fun g => (st.update g, skipLazy s)
  | '\x7b' :: s => do
      let (least, most, rest) ← counts? st.top.flags.verbose s
      let g ← st.top.repeated least most
      some (st.update g, skipLazy (skipBlanks st.top.flags.verbose rest))
  | '\\' :: s => st.escape? s
  | '.' :: s => some (st.update (st.top.leaf (.chars st.top.flags.dot)), s)
  | '^' :: s => some (st.update (st.top.leaf (.assertion st.top.flags.start)), s)
  | '$' :: s => some (st.update (st.top.leaf (.assertion st.top.flags.stop)), s)
  | c :: s => some (st.update (st.top.literal c), s)

/-- The pattern as a whole, if no group is open. -/
def result (st : Reading) : Option Part :=
  if st.outer.isEmpty then some st.top.result else none

/-- Reads the rest of a pattern. -/
def rest? (st : Reading) (s : List Char) : Option Part :=
  match skipBlanks st.top.flags.verbose s with
  | [] => st.result
  | part =>
      match st.step? part with
      | some (st, rest) => if rest.length < s.length then st.rest? rest else none
      | none => none
termination_by s.length

end Reading

/-- How deep the parts of a pattern may nest. -/
def depthLimit : Nat := 250

/-- How many character tests a pattern may amount to when repetitions are written out. -/
def sizeLimit : Nat := 436906

/-- The node that a text stands for. -/
def Node.ofText? (s : String) : Option Node := do
  let part ← Reading.start.rest? s.toList
  if part.depth ≤ depthLimit && part.node.size ≤ sizeLimit then some part.node else none

end TypeProbe.Pattern

namespace TypeProbe

/-- A pattern: its text, and what the text stands for. -/
structure Pattern where
  text : String
  node : Pattern.Node

namespace Pattern

/-- The pattern with a text, if the text is well formed. -/
def ofText? (s : String) : Option Pattern := (Node.ofText? s).map (⟨s, ·⟩)

/-- Whether the pattern matches some part of a text. -/
def occursIn (p : Pattern) (s : String) : Bool := p.node.occursIn s.toList

end Pattern

end TypeProbe
