import Chatbot.Shell.Tools

/-!
# Ordering by precedence

`tsort` reads pairs of words, each saying that its first word comes before its second, and
writes every word once in an order that keeps all the pairs. A pair of one word twice only
names the word.

The words are kept in byte order. The words that no pair puts after another are queued in that
order; each word written lowers the count of those it must precede, in the reverse of the
order their pairs came in, and queues each whose count reaches zero. When the queue is empty
and words are left, they hold a loop: it is reported, one of its pairs is dropped, and the
writing goes on.
-/

namespace Chatbot.Shell

/-- A word of `tsort` with what the pairs say of it. -/
structure PrecedenceNode where
  /-- The word. -/
  word : Bytes
  /-- How many pairs put it after another word, not yet written. -/
  count : Nat
  /-- The words it must precede, the pair read last first. -/
  after : List Nat
  /-- Whether it was written. -/
  done : Bool
  deriving DecidableEq, Repr

/-- Insert a word into a list kept in byte order, if it is not there. -/
def insertWord (w : Bytes) : List Bytes → List Bytes
  | [] => [w]
  | x :: xs => if w = x then x :: xs else if compareBytes w x then w :: x :: xs else x :: insertWord w xs
where
  /-- Whether `a` comes before `b` in byte order. -/
  compareBytes : Bytes → Bytes → Bool
    | [], [] => false
    | [], _ => true
    | _, [] => false
    | a :: as, b :: bs => if a < b then true else if b < a then false else compareBytes as bs

/-- The graph of the pairs: the words in byte order, each with its count and successors. -/
def precedenceGraph (pairs : List (Bytes × Bytes)) : Array PrecedenceNode :=
  let words := pairs.foldl (fun ws (a, b) => insertWord b (insertWord a ws)) []
  let arr := words.toArray
  let index (w : Bytes) : Nat := (arr.findIdx? (· = w)).getD 0
  let nodes : Array PrecedenceNode := arr.map fun w => { word := w, count := 0, after := [], done := false }
  pairs.foldl (fun ns (a, b) =>
    if a = b then ns
    else
      let i := index a
      let k := index b
      let ns := ns.modify k fun n => { n with count := n.count + 1 }
      ns.modify i fun n => { n with after := k :: n.after }) nodes

/-- Write the queued words and those they free: the words written and the graph after. -/
def drainQueue : Nat → List Nat → Array PrecedenceNode → List Bytes → List Bytes × Array PrecedenceNode
  | 0, _, g, out => (out, g)
  | _, [], g, out => (out, g)
  | fuel + 1, i :: queue, g, out =>
    match g[i]? with
    | none => drainQueue fuel queue g out
    | some n =>
      let g := g.modify i fun n => { n with done := true }
      let (g, freed) := n.after.foldl (fun (acc : Array PrecedenceNode × List Nat) k =>
        let (g, freed) := acc
        let g := g.modify k fun m => { m with count := m.count - 1 }
        if (g[k]?.map (·.count)).getD 1 = 0 then (g, freed ++ [k]) else (g, freed)) (g, [])
      drainQueue fuel (queue ++ freed) g (out ++ [n.word])

/-- Follow predecessors back from word `i` among the words not written, until a word comes
again: the loop found, as the words from that word on. -/
def findLoop (g : Array PrecedenceNode) : Nat → Nat → List Nat → List Nat
  | 0, _, path => path
  | fuel + 1, i, path =>
    let preds := (List.range g.size).filter fun p =>
      match g[p]? with
      | some n => !n.done && n.after.contains i
      | none => false
    match preds.head? with
    | none => path
    | some p =>
      match path.idxOf? p with
      | some k => (path.take (k + 1))
      | none => findLoop g fuel p (p :: path)

/-- Write the words: the queue of free words first, then, while words are left, report a loop
and drop one of its pairs. The words written, the loops reported and the graph. -/
def precedenceRounds : Nat → Array PrecedenceNode → List Bytes → List (List Bytes) →
    List Bytes × List (List Bytes)
  | 0, _, out, loops => (out, loops)
  | fuel + 1, g, out, loops =>
    let free := (List.range g.size).filter fun i =>
      match g[i]? with
      | some n => !n.done && n.count = 0
      | none => false
    let (out, g) := drainQueue (g.size * g.size + g.size + 1) free g out
    let left := (List.range g.size).filter fun i => (g[i]?.map (!·.done)).getD false
    match left.head? with
    | none => (out, loops)
    | some start =>
      let loop := findLoop g (g.size + 1) start [start]
      match loop with
      | first :: second :: _ =>
        -- drop the pair that puts `second`'s predecessor `first` before it
        let g := g.modify first fun n => { n with after := n.after.erase second }
        let g := g.modify second fun n => { n with count := n.count - 1 }
        precedenceRounds fuel g out (loops ++ [loop.reverse.filterMap fun i => g[i]?.map (·.word)])
      | _ => (out, loops)

/-- The words of the pairs in an order that keeps them, and the loops found. -/
def precedenceOrder (pairs : List (Bytes × Bytes)) : List Bytes × List (List Bytes) :=
  let g := precedenceGraph pairs
  precedenceRounds (g.size + 1) g [] []

/-- The words of `tsort`'s input: separated by blanks and line feeds. -/
def precedenceWords (data : Bytes) : List Bytes :=
  ((data.splitOn 0x0A).flatMap fun l => (l.splitOn 0x20).flatMap (·.splitOn 0x09)).filter (!·.isEmpty)

/-- Pair up words. -/
def pairUp : List Bytes → List (Bytes × Bytes)
  | a :: b :: rest => (a, b) :: pairUp rest
  | _ => []

/-- `tsort`: order the words of the pairs of the input. -/
def tsortTool (files : List (String × Bytes)) (stdin : Bytes) (args : List Bytes) : ToolRun :=
  let names := args.filter fun a => a != bytesOf "--"
  match names with
  | _ :: extra :: _ => usageFailure "tsort" s!"extra operand {localeQuote (textOf extra)}"
  | _ =>
    let name := names.headD (bytesOf "-")
    match readInput files stdin (textOf name) with
    | none => ToolRun.failure s!"tsort: {textOf name}: No such file or directory"
    | some data =>
      let words := precedenceWords data
      let readStdin := fromStdin names
      if words.length % 2 = 1 then
        { err := rawOf s!"tsort: {textOf name}: input contains an odd number of tokens\n",
          status := 1, readStdin }
      else
        let (out, loops) := precedenceOrder (pairUp words)
        let err := loops.flatMap fun loop =>
          rawOf s!"tsort: {textOf name}: input contains a loop:\n" ++
            loop.flatMap fun w => bytesOf "tsort: " ++ w ++ [0x0A]
        { out := out.flatMap (· ++ [0x0A]), err, status := if loops.isEmpty then 0 else 1,
          readStdin, buffered := true }

end Chatbot.Shell
