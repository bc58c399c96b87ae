import CallContract.Yaml.Node
import CallContract.Yaml.Token

/-!
# The document of a text

A text holds one document at most; without one its node is empty. An alias
stands for the last node before it that is anchored by its name, and that node
must be complete. Collections nest at most 128 deep, and following all aliases,
those inside of aliased nodes too, may take at most a hundred steps for each
part of the document.
-/

set_option autoImplicit false

namespace CallContract.Yaml

/-- A node with how deep its collections nest and how many aliases are followed to walk it. -/
structure Subtree where
  node : Node
  depth : Nat
  jumps : Nat

namespace Subtree

def empty : Subtree := ⟨.empty, 0, 0⟩

def sequence (items : List Subtree) : Subtree :=
  ⟨.sequence (items.map (·.node)),
    (items.map (·.depth)).foldl max 0 + 1,
    (items.map (·.jumps)).foldr (· + ·) 0⟩

def mapping (entries : List (String × Subtree × Subtree)) : Subtree :=
  ⟨.mapping (entries.map fun (label, k, v) => (label, k.node, v.node)),
    (entries.map fun (_, k, v) => max k.depth v.depth).foldl max 0 + 1,
    (entries.map fun (_, k, v) => k.jumps + v.jumps).foldr (· + ·) 0⟩

end Subtree

structure Reader where
  tokens : List Token
  names : List (String × Nat)
  anchored : List (Nat × Subtree)
  anchors : Nat
  /-- Scalars, aliases, and beginnings and ends of collections. -/
  parts : Nat

namespace Reader

def head? (r : Reader) : Option Token := r.tokens.head?

def skip (r : Reader) : Reader := { r with tokens := r.tokens.tail }

def count (r : Reader) (n : Nat) : Reader := { r with parts := r.parts + n }

def isAt (r : Reader) (stops : List Token) : Bool :=
  r.head?.any (· ∈ stops)

def accept? (r : Reader) (t : Token) : Option Reader :=
  if r.head? = some t then some r.skip else none

def declare (r : Reader) (name : String) : Reader :=
  { r with names := (name, r.anchors) :: r.names, anchors := r.anchors + 1 }

def complete (r : Reader) (anchor : Option Nat) (t : Subtree) : Reader :=
  match anchor with
  | some i => { r with anchored := (i, t) :: r.anchored }
  | none => r

def find? (r : Reader) (name : String) : Option Subtree :=
  (r.names.lookup name).bind fun i => r.anchored.lookup i

def absent (r : Reader) : Subtree × Reader := (.empty, r.count 1)

def label (start : Option Token) (key : Subtree) : String :=
  match start, key.node with
  | some (.alias _), _ => "?"
  | _, .scalar text _ => text
  | _, _ => "?"

def properties (r : Reader) : Bool × Option Nat × Reader :=
  match r.tokens with
  | .anchor name :: .tag :: _ => (true, some r.anchors, (r.declare name).skip.skip)
  | .tag :: .anchor name :: _ => (true, some r.anchors, (r.declare name).skip.skip)
  | .anchor name :: _ => (true, some r.anchors, (r.declare name).skip)
  | .tag :: _ => (true, none, r.skip)
  | _ => (false, none, r)

/-- Reads a node: whether it may be a block collection, and whether it may be a sequence that is
indented no further than the key before it. -/
abbrev NodeReader := Bool → Bool → Reader → Option (Subtree × Reader)

abbrev Pairs := List (String × Subtree × Subtree)

section

variable (node : NodeReader)

def nodeOr (block loose : Bool) (stops : List Token) (r : Reader) : Option (Subtree × Reader) :=
  if r.isAt stops then some r.absent else node block loose r

def blockEntries : Nat → List Subtree → Reader → Option (List Subtree × Reader)
  | 0, _, _ => none
  | fuel + 1, done, r =>
    match r.head? with
    | some .blockEntry => do
      let (x, r) ← nodeOr node true false [.blockEntry, .blockEnd] r.skip
      blockEntries fuel (x :: done) r
    | some .blockEnd => some (done.reverse, r.skip)
    | _ => none

def looseEntries : Nat → List Subtree → Reader → Option (List Subtree × Reader)
  | 0, _, _ => none
  | fuel + 1, done, r =>
    match r.head? with
    | some .blockEntry => do
      let (x, r) ← nodeOr node true false [.blockEntry, .key, .value, .blockEnd] r.skip
      looseEntries fuel (x :: done) r
    | _ => some (done.reverse, r)

def blockPairs : Nat → Pairs → Reader → Option (Pairs × Reader)
  | 0, _, _ => none
  | fuel + 1, done, r =>
    match r.head? with
    | some .key => do
      let stops := [Token.key, .value, .blockEnd]
      let (k, after) ← nodeOr node true true stops r.skip
      let name := label r.skip.head? k
      let (v, after) ← match after.accept? .value with
        | some after => nodeOr node true true stops after
        | none => some after.absent
      blockPairs fuel ((name, k, v) :: done) after
    | some .blockEnd => some (done.reverse, r.skip)
    | _ => none

def comma (first : Bool) (r : Reader) : Option Reader :=
  if first then some r else r.accept? .flowEntry

def flowValue (stops : List Token) (r : Reader) : Option (Subtree × Reader) :=
  match r.accept? .value with
  | some r => nodeOr node false false stops r
  | none => some r.absent

/-- A single pair in a flow sequence, its key token taken. If nothing is written for the key, the
token after it is passed over. -/
def singlePair (r : Reader) : Option (Subtree × Reader) := do
  let stops := [Token.flowEntry, .flowSequenceEnd]
  let bare := r.isAt (.value :: stops)
  let (k, after) ← nodeOr node false false (.value :: stops) r
  let name := label r.head? k
  let (v, after) ← flowValue node stops (if bare then after.skip else after)
  some (.mapping [(name, k, v)], after.count 2)

def flowItems : Nat → Bool → List Subtree → Reader → Option (List Subtree × Reader)
  | 0, _, _, _ => none
  | fuel + 1, first, done, r =>
    if r.head? = some .flowSequenceEnd then some (done.reverse, r.skip)
    else do
      let r ← comma first r
      match r.head? with
      | some .key => do
        let (x, r) ← singlePair node r.skip
        flowItems fuel false (x :: done) r
      | some .flowSequenceEnd => some (done.reverse, r.skip)
      | _ => do
        let (x, r) ← node false false r
        flowItems fuel false (x :: done) r

def flowPairs : Nat → Bool → Pairs → Reader → Option (Pairs × Reader)
  | 0, _, _, _ => none
  | fuel + 1, first, done, r =>
    if r.head? = some .flowMappingEnd then some (done.reverse, r.skip)
    else do
      let r ← comma first r
      let stops := [Token.flowEntry, .flowMappingEnd]
      match r.head? with
      | some .key => do
        let (k, after) ← nodeOr node false false (.value :: stops) r.skip
        let name := label r.skip.head? k
        let (v, after) ← flowValue node stops after
        flowPairs fuel false ((name, k, v) :: done) after
      | some .flowMappingEnd => some (done.reverse, r.skip)
      | _ => do
        let (k, after) ← node false false r
        let name := label r.head? k
        let (v, after) := after.absent
        flowPairs fuel false ((name, k, v) :: done) after

end

def content (node : NodeReader) (block loose given : Bool)
    (r : Reader) : Option (Subtree × Reader) :=
  let fuel := r.tokens.length + 1
  let sequence (x : Option (List Subtree × Reader)) : Option (Subtree × Reader) :=
    x.map fun (items, r) => (.sequence items, r.count 2)
  let mapping (x : Option (Pairs × Reader)) : Option (Subtree × Reader) :=
    x.map fun (entries, r) => (.mapping entries, r.count 2)
  match r.head?, block, loose with
  | some .blockEntry, _, true => sequence (looseEntries node fuel [] r)
  | some (.scalar text plain), _, _ => some (⟨.scalar text plain, 0, 0⟩, r.skip.count 1)
  | some .flowSequenceStart, _, _ => sequence (flowItems node fuel true [] r.skip)
  | some .flowMappingStart, _, _ => mapping (flowPairs node fuel true [] r.skip)
  | some .blockSequenceStart, true, _ => sequence (blockEntries node fuel [] r.skip)
  | some .blockMappingStart, true, _ => mapping (blockPairs node fuel [] r.skip)
  | _, _, _ => if given then some r.absent else none

def node : Nat → Bool → Bool → Reader → Option (Subtree × Reader)
  | depth, block, loose, r =>
    match r.head? with
    | some (.alias name) => do
      let t ← r.find? name
      if t.depth ≤ depth then some ({ t with jumps := t.jumps + 1 }, r.skip.count 1) else none
    | _ => do
      let (given, anchor, r) := r.properties
      let inner : NodeReader := match depth with
        | 0 => fun _ _ _ => none
        | depth + 1 => node depth
      let (t, r) ← content inner block loose given r
      if t.depth ≤ depth then some (t, r.complete anchor t) else none

def directives (r : Reader) : List Token → Bool → List String → Option Reader
  | .version major minor :: rest, versioned, handles =>
    if !versioned && major = 1 && (minor = 1 || minor = 2) then directives r rest true handles
    else none
  | .tagHandle h :: rest, versioned, handles =>
    if h ∈ handles then none else directives r rest versioned (h :: handles)
  | .documentStart :: rest, _, _ => some { r with tokens := rest }
  | _, _, _ => none

def document (r : Reader) : Option (Subtree × Reader) :=
  match r.head? with
  | none => some r.absent
  | some (.version _ _) | some (.tagHandle _) | some .documentStart => do
    let r ← r.directives r.tokens false []
    match r.head? with
    | none | some (.version _ _) | some (.tagHandle _) | some .documentStart
    | some .documentEnd => some r.absent
    | _ => node 128 true false r
  | some _ => node 128 true false r

end Reader

def Node.read? (text : String) : Option Node := do
  let tokens ← tokens? text
  let (t, r) ← Reader.document ⟨tokens, [], [], 0, 0⟩
  if r.tokens.all (· = .documentEnd) && t.jumps ≤ 100 * r.parts then some t.node else none

end CallContract.Yaml
