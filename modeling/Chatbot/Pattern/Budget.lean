import Chatbot.Pattern.Utf8

/-!
# The size of a pattern's automaton

A pattern is refused when the automaton built from it would take more than 10 MiB. The
automaton is built twice, once to read forwards and once backwards, and each must fit. Its
size is counted as it is built: 32 bytes for each state, 8 more for each transition of a state
with a list of transitions, and 4 for each branch of a union state. Building stops as soon as
the count passes the limit, so the count of a huge repetition is never carried out in full.

How many states a part takes depends on how it is built:

* literal text takes a state per byte, an assertion or the empty match one state;
* a class within ASCII takes an empty state and one state with a transition per range;
* a wider class is built from its UTF-8 byte sequences. Forwards, the sequences are merged
  into a small automaton, sharing equal states through a table of 10000 slots indexed by a
  hash of the state's transitions; backwards, each sequence is a chain of byte-range states
  into a union, sharing equal tails through a table of 1000 slots. A slot holds one state, so
  a later state with the same slot replaces it, and the hash depends on the numbers of the
  states, which are given in order of creation; the count follows that exactly;
* a branch of literal texts only is built as a trie of its bytes;
* repetitions are built by copying: `e{n}` is `n` copies, `e{m,n}` adds a union and a copy for
  each optional round, and unbounded repetitions loop through a union;
* a capturing group takes two more states forwards; the whole pattern is a capturing group,
  ends in a match state, and is preceded by a loop over any byte unless every match is
  anchored at the side the automaton starts from.
-/

namespace Chatbot.Pattern

/-- The most bytes an automaton may take. -/
def sizeLimit : Nat := 10 * 1024 * 1024

/-- A pattern in normal form, ready to be counted: classes beyond ASCII come with their byte
sequences worked out once, however often they are copied. -/
inductive Plan where
  /-- One empty state. -/
  | empty
  /-- One assertion state. -/
  | look
  /-- Literal text of so many bytes. -/
  | bytes (n : Nat)
  /-- A class within ASCII with so many ranges, or the class that never matches. -/
  | ascii (ranges : Nat)
  /-- A class beyond ASCII, by its byte sequences in order. -/
  | unicode (seqs : Array (Array (Nat × Nat)))
  /-- A repetition; `nonEmpty` when every round reads at least one byte. -/
  | rep (least : Nat) (most : Option Nat) (nonEmpty : Bool) (sub : Plan)
  /-- A capturing group. -/
  | capture (sub : Plan)
  /-- Parts in order. -/
  | concat (subs : List Plan)
  /-- Branches in order. -/
  | alt (subs : List Plan)
  /-- Branches that are all literal texts, as their bytes. -/
  | literals (texts : List (List Nat))
  deriving Inhabited

/-- The byte sequences of sorted ranges of code points. -/
def classSequences (rs : List (Nat × Nat)) : Array (Array (Nat × Nat)) :=
  (rs.flatMap fun r => (utf8Sequences r.1 r.2).map List.toArray).toArray

/-- The literal texts of branches, if all are literal texts. -/
def literalTexts (fs : List Form) : Option (List (List Nat)) :=
  fs.mapM fun f =>
    match f with
    | .literal bs => some bs
    | _ => none

/-- The plan of a form. -/
def Form.plan : Form → Plan
  | .empty => .empty
  | .literal bs => .bytes bs.length
  | .cls rs =>
    if rs.all fun r => r.2 ≤ 0x7F then .ascii rs.length else .unicode (classSequences rs)
  | .look _ => .look
  | .rep least most sub =>
    let nonEmpty := match sub.minLength with
      | some k => decide (0 < k)
      | none => false
    .rep least most nonEmpty sub.plan
  | .capture sub => .capture sub.plan
  | .concat subs => .concat (planAll subs)
  | .alt subs =>
    match literalTexts subs with
    | some texts => if texts.length ≥ 2 then .literals texts else .alt (planAll subs)
    | none => .alt (planAll subs)
where
  /-- The plans of a list of forms. -/
  planAll : List Form → List Plan
    | [] => []
    | f :: fs => f.plan :: planAll fs

/-- A slot of the forward table: its generation (0 for never used), the transitions of the
state, and the state's number. -/
abbrev NodeSlot := Nat × Array (Nat × Nat × Nat) × Nat

/-- A slot of the backward table: its generation, the state a byte range leads to and the
range, and the state's number. -/
abbrev TailSlot := Nat × (Nat × Nat × Nat) × Nat

/-- The count so far of an automaton being built. -/
structure Tally where
  /-- The states made so far; the next state gets this number. -/
  states : Nat := 0
  /-- The bytes taken beyond 32 per state. -/
  extra : Nat := 0
  /-- The generation of the sharing tables: each class starts a new one. -/
  generation : Nat := 0
  /-- The forward sharing table. -/
  nodes : Array NodeSlot := Array.replicate 10000 (0, #[], 0)
  /-- The backward sharing table. -/
  tails : Array TailSlot := Array.replicate 1000 (0, (0, 0, 0), 0)
  deriving Inhabited

/-- The bytes an automaton takes so far. -/
def Tally.size (t : Tally) : Nat := 32 * t.states + t.extra

/-- Counting stops, with nothing more to say, once the limit is passed. -/
abbrev Count := Except Unit

/-- Fail once the count is over the limit. -/
def Tally.check (t : Tally) : Count Tally :=
  if t.size > sizeLimit then .error () else .ok t

/-- Make a state taking `extra` bytes beyond its 32; its number and the count after. -/
def Tally.add (t : Tally) (extra : Nat) : Count (Nat × Tally) := do
  let t' ← Tally.check { t with states := t.states + 1, extra := t.extra + extra }
  pure (t.states, t')

/-- Make `n` states of no extra bytes. -/
def Tally.addMany (t : Tally) (n : Nat) : Count Tally :=
  Tally.check { t with states := t.states + n }

/-- Give a union state one more branch. -/
def Tally.branch (t : Tally) : Count Tally := Tally.check { t with extra := t.extra + 4 }

/-- Connect the end of a part onward: a union end takes one more branch. -/
def Tally.link (t : Tally) (endIsUnion : Bool) : Count Tally :=
  if endIsUnion then t.branch else .ok t

/-! ### Hashing -/

/-- One step of the 64-bit FNV-1a hash. -/
def fnvStep (h : UInt64) (x : Nat) : UInt64 := (h ^^^ x.toUInt64) * 1099511628211

/-- The start of the 64-bit FNV-1a hash. -/
def fnvStart : UInt64 := 14695981039346656037

/-- The slot of a state's transitions in the forward table. -/
def nodeSlot (trans : Array (Nat × Nat × Nat)) : Nat :=
  (trans.foldl (fun h (s, e, n) => fnvStep (fnvStep (fnvStep h s) e) n) fnvStart % 10000).toNat

/-- The slot of a byte range leading to a state in the backward table. -/
def tailSlot (next s e : Nat) : Nat :=
  (fnvStep (fnvStep (fnvStep fnvStart next) s) e % 1000).toNat

/-! ### Classes read forwards -/

/-- A state of the forward class automaton not yet made: its transitions so far and the
range of its last transition, whose target is not known yet. -/
structure OpenNode where
  /-- The transitions so far. -/
  trans : Array (Nat × Nat × Nat)
  /-- The range of the last transition, if one is pending. -/
  last : Option (Nat × Nat)
  deriving Inhabited

/-- Close the pending transition of a node, to `next`. -/
def OpenNode.close (n : OpenNode) (next : Nat) : OpenNode :=
  match n.last with
  | some (s, e) => { trans := n.trans.push (s, e, next), last := none }
  | none => n

/-- Make a state with these transitions, or find an equal one in its slot of the table. -/
def makeNode (gen : Nat) (trans : Array (Nat × Nat × Nat)) (t : Tally) : Count (Nat × Tally) :=
  let slot := nodeSlot trans
  let found := match t.nodes[slot]? with
    | some (g, key, id) => if g == gen && key == trans then some id else none
    | none => none
  match found with
  | some id => .ok (id, t)
  | none => do
    let (id, t) ← t.add (8 * trans.size)
    pure (id, { t with nodes := t.nodes.set! slot (gen, trans, id) })

/-- Make the open nodes above depth `keep`, deepest first, each leading to the one made before
it (the first to `next`); the node at depth `keep` then leads to the last one made. -/
def freezeAbove (gen keep : Nat) : Nat → Array OpenNode → Nat → Tally →
    Count (Array OpenNode × Tally)
  | 0, nodes, _, t => .ok (nodes, t)
  | fuel + 1, nodes, next, t =>
    if keep + 1 < nodes.size then
      match makeNode gen (nodes.back!.close next).trans t with
      | .ok (id, t) => freezeAbove gen keep fuel nodes.pop id t
      | .error e => .error e
    else
      .ok (nodes.modify (nodes.size - 1) (·.close next), t)

/-- How many leading ranges of a sequence the open nodes already have pending. -/
def sharedPrefix (nodes : Array OpenNode) (seq : Array (Nat × Nat)) : Nat :=
  ((List.range (min nodes.size seq.size)).takeWhile fun i =>
    (nodes[i]!).last == some (seq[i]!)).length

/-- Add one byte sequence to the forward class automaton. -/
def addSequence (gen target : Nat) (nodes : Array OpenNode) (seq : Array (Nat × Nat))
    (t : Tally) : Count (Array OpenNode × Tally) := do
  let keep := sharedPrefix nodes seq
  let (nodes, t) ← freezeAbove gen keep nodes.size nodes target t
  let nodes := nodes.modify (nodes.size - 1) fun n => { n with last := seq[keep]? }
  let rest := (seq.toList.drop (keep + 1)).map fun r => ({ trans := #[], last := some r } : OpenNode)
  pure (nodes ++ rest.toArray, t)

/-- Build a class forwards from its byte sequences. -/
def forwardClass (seqs : Array (Array (Nat × Nat))) (t : Tally) : Count Tally := do
  let (target, t) ← t.add 0
  let gen := t.generation + 1
  let t := { t with generation := gen }
  let (nodes, t) ← seqs.foldlM (fun (nodes, t) seq => addSequence gen target nodes seq t)
    (#[({ trans := #[], last := none } : OpenNode)], t)
  let (nodes, t) ← freezeAbove gen 0 nodes.size nodes target t
  let (_, t) ← makeNode gen (nodes[0]!).trans t
  pure t

/-! ### Classes read backwards -/

/-- Add one byte sequence to the backward class automaton, sharing equal tails. -/
def addTail (gen altEnd : Nat) (seq : Array (Nat × Nat)) (t : Tally) : Count Tally := do
  let (_, t) ← seq.foldlM (fun (next, t) (s, e) =>
      let slot := tailSlot next s e
      let found := match t.tails[slot]? with
        | some (g, key, id) => if g == gen && key == (next, s, e) then some id else none
        | none => none
      match found with
      | some id => .ok (id, t)
      | none => do
        let (id, t) ← t.add 0
        pure (id, { t with tails := t.tails.set! slot (gen, (next, s, e), id) }))
    (altEnd, t)
  t.branch

/-- Build a class backwards from its byte sequences. -/
def backwardClass (seqs : Array (Array (Nat × Nat))) (t : Tally) : Count Tally := do
  let gen := t.generation + 1
  let t := { t with generation := gen }
  let (_, t) ← t.add 0
  let (altEnd, t) ← t.add 0
  seqs.foldlM (fun t seq => addTail gen altEnd seq t) t

/-! ### Tries of literal texts -/

/-- A state of a trie of texts: its finished groups of transitions (one more for each text
that ends here) and the group still open, each transition a byte and a state. -/
structure TrieNode where
  /-- The finished groups. -/
  groups : List (List (Nat × Nat))
  /-- The open group, sorted by byte. -/
  active : List (Nat × Nat)
  deriving Inhabited

/-- Whether a text ends at a state with nothing after it, so that longer texts through it
can never be chosen. -/
def TrieNode.closed (n : TrieNode) : Bool := !n.groups.isEmpty && n.active.isEmpty

/-- Whether a state has no transitions at all. -/
def TrieNode.leaf (n : TrieNode) : Bool := n.groups.all List.isEmpty && n.active.isEmpty

/-- Insert a transition into a list sorted by byte. -/
def insertByByte (t : Nat × Nat) : List (Nat × Nat) → List (Nat × Nat)
  | [] => [t]
  | u :: us => if t.1 < u.1 then t :: u :: us else u :: insertByByte t us

/-- Add a text to a trie, from state `here`. -/
def trieAdd (nodes : Array TrieNode) (here : Nat) : List Nat → Array TrieNode
  | [] =>
    let n := nodes[here]!
    if !n.groups.isEmpty && n.leaf then nodes
    else nodes.set! here { groups := n.groups ++ [n.active], active := [] }
  | b :: bs =>
    let n := nodes[here]!
    if n.closed then nodes
    else
      match n.active.find? (·.1 == b) with
      | some (_, next) => trieAdd nodes next bs
      | none =>
        let next := nodes.size
        let nodes := (nodes.set! here { n with active := insertByByte (b, next) n.active }).push
          { groups := [], active := [] }
        trieAdd nodes next bs

/-- The states, extra bytes, and union branches a trie state and those below it take; `fuel`
bounds the depth. -/
def trieCost (nodes : Array TrieNode) : Nat → Nat → Nat × Nat
  | 0, _ => (0, 0)
  | fuel + 1, here =>
    let n := nodes[here]!
    let groups := n.groups ++ [n.active]
    let below := groups.flatten.foldl (fun (acc : Nat × Nat) (_, next) =>
      if (nodes[next]!).leaf then acc
      else
        let (s, x) := trieCost nodes fuel next
        (acc.1 + s, acc.2 + x)) (0, 0)
    let filled := groups.filter fun g => !g.isEmpty
    let sparse := filled.foldl (fun x g => if g.length ≥ 2 then x + 8 * g.length else x) 0
    let branches := filled.length + (groups.length - 1)
    (below.1 + filled.length + 1, below.2 + sparse + 4 * branches)

/-- Build branches of literal texts as a trie, read forwards or backwards. -/
def literalTrie (backward : Bool) (texts : List (List Nat)) (t : Tally) : Count Tally := do
  let nodes := texts.foldl (fun nodes text =>
    trieAdd nodes 0 (if backward then text.reverse else text)) #[{ groups := [], active := [] }]
  let depth := texts.foldl (fun d text => max d text.length) 0
  let (states, extra) := trieCost nodes (depth + 1) 0
  Tally.check { t with states := t.states + 1 + states, extra := t.extra + extra }

/-! ### Building -/

/-- Run a step `n` times, stopping at the first failure. -/
def repeatCount (step : Tally → Count Tally) : Nat → Tally → Count Tally
  | 0, t => .ok t
  | n + 1, t =>
    match step t with
    | .ok t => repeatCount step n t
    | .error e => .error e

/-- Whether the end state of a built plan is a union, which takes a branch when the end is
connected onward. -/
def Plan.endsInUnion (backward : Bool) : Plan → Bool
  | .rep least most nonEmpty sub =>
    match least, most with
    | 0, some 1 => false
    | 0, none => nonEmpty
    | _, none => true
    | n, some m => if n = m then n ≠ 0 && sub.endsInUnion backward else false
  | .capture sub => backward && sub.endsInUnion backward
  | .concat subs => if backward then firstEnds subs else lastEnds subs
  | .alt [p] => p.endsInUnion backward
  | _ => false
where
  /-- Whether the first part ends in a union. -/
  firstEnds : List Plan → Bool
    | p :: _ => p.endsInUnion backward
    | [] => false
  /-- Whether the last part ends in a union. -/
  lastEnds : List Plan → Bool
    | [p] => p.endsInUnion backward
    | _ :: ps => lastEnds ps
    | [] => false

/-- Build `n` copies of a plan one after the other, each connected to the next. -/
def copies (build : Tally → Count Tally) (endUnion : Bool) (n : Nat) (t : Tally) :
    Count Tally :=
  match n with
  | 0 => Prod.snd <$> t.add 0
  | k + 1 => do
    let t ← build t
    repeatCount (fun t => do
      let t ← build t
      t.link endUnion) k t

/-- Build a plan, forwards or backwards; `fuel` bounds the nesting. -/
def Plan.build (backward : Bool) : Nat → Plan → Tally → Count Tally
  | 0, _, t => .ok t
  | fuel + 1, p, t =>
    match p with
    | .empty | .look => Prod.snd <$> t.add 0
    | .bytes n => t.addMany n
    | .ascii r => do
      let (_, t) ← t.add 0
      Prod.snd <$> t.add (8 * r)
    | .unicode seqs => if backward then backwardClass seqs t else forwardClass seqs t
    | .capture sub =>
      if backward then sub.build backward fuel t
      else do
        let (_, t) ← t.add 0
        let t ← sub.build backward fuel t
        let (_, t) ← t.add 0
        t.link (sub.endsInUnion backward)
    | .concat subs => do
      let order := if backward then subs.reverse else subs
      match order with
      | [] => Prod.snd <$> t.add 0
      | first :: rest =>
        let t ← first.build backward fuel t
        let (t, _) ← rest.foldlM (fun (t, prevUnion) q => do
          let t ← q.build backward fuel t
          let t ← t.link prevUnion
          pure (t, q.endsInUnion backward)) (t, first.endsInUnion backward)
        pure t
    | .alt subs =>
      match subs with
      | [] => Prod.snd <$> t.add 0
      | [q] => q.build backward fuel t
      | qs => do
        let firstTwo := qs.take 2
        let t ← firstTwo.foldlM (fun t q => q.build backward fuel t) t
        let t ← t.addMany 2
        let t ← firstTwo.foldlM (fun t q => do
          let t ← t.branch
          t.link (q.endsInUnion backward)) t
        (qs.drop 2).foldlM (fun t q => do
          let t ← q.build backward fuel t
          let t ← t.branch
          t.link (q.endsInUnion backward)) t
    | .literals texts => literalTrie backward texts t
    | .rep least most nonEmpty sub =>
      let one := sub.build backward fuel
      let subUnion := sub.endsInUnion backward
      match least, most with
      | 0, some 1 => do
        let (_, t) ← t.add 0
        let t ← one t
        let (_, t) ← t.add 0
        let t ← t.branch
        let t ← t.branch
        t.link subUnion
      | 0, none =>
        if nonEmpty then do
          let (_, t) ← t.add 0
          let t ← one t
          let t ← t.branch
          t.link subUnion
        else do
          let t ← one t
          let (_, t) ← t.add 0
          let t ← t.link subUnion
          let t ← t.branch
          let t ← t.addMany 2
          let t ← t.branch
          let t ← t.branch
          t.branch
      | 1, none => do
        let t ← one t
        let (_, t) ← t.add 0
        let t ← t.link subUnion
        t.branch
      | n + 2, none => do
        let t ← copies one subUnion (n + 1) t
        let t ← one t
        let (_, t) ← t.add 0
        let t ← t.link subUnion
        let t ← t.link subUnion
        t.branch
      | n, some m =>
        if n = m then copies one subUnion n t
        else do
          let t ← copies one subUnion n t
          let prefixUnion := n ≠ 0 && subUnion
          let (_, t) ← t.add 0
          let t ← repeatCount (fun t => do
            let (_, t) ← t.add 0
            let t ← one t
            let t ← t.branch
            t.branch) (m - n) t
          let t ← t.link prefixUnion
          let later := if subUnion then m - n else 0
          Tally.check { t with extra := t.extra + 4 * later }

/-- Build the automaton of a whole pattern in one direction; whether it fits. -/
def fitsOneWay (backward : Bool) (f : Form) (p : Plan) : Bool :=
  let anchored := if backward then f.anchoredEnd else f.anchoredStart
  let run : Count Tally := do
    let t : Tally := {}
    let (t, prefixUnion) ← if anchored then do
        let (_, t) ← t.add 0
        pure (t, false)
      else do
        let (_, t) ← t.add 0
        let (_, t) ← t.add 0
        let (_, t) ← t.add 8
        let t ← t.branch
        pure (t, true)
    let t ← if backward then p.build backward 100000 t
      else do
        let (_, t) ← t.add 0
        let t ← p.build backward 100000 t
        let (_, t) ← t.add 0
        t.link (p.endsInUnion backward)
    let (_, t) ← t.add 0
    let t ← if backward then t.link (p.endsInUnion backward) else pure t
    t.link prefixUnion
  match run with
  | .ok _ => true
  | .error _ => false

/-- Whether the automaton of a pattern in normal form fits the size limit both ways. -/
def Form.fitsSizeLimit (f : Form) : Bool :=
  let p := f.plan
  fitsOneWay false f p && fitsOneWay true f p

end Chatbot.Pattern
