import Chatbot.Words.Graph
import Chatbot.Json.Read

/-!
# Snapshots of the word graph

A graph is written as a JSON object with the start node and an object of word nodes in their
order. A node is an object with its edges, as an array of `[successor, count]` pairs in order,
and its total. A successor is `{"word": w}` or the string `end`.

Reading accepts what writing produces and gives back the same graph, orders included. When a
successor or a word appears twice, the later count or node replaces the earlier one and keeps
the earlier one's place.
-/

namespace Chatbot.Words

open Chatbot.Json

/-- The JSON of a successor. -/
def Successor.toJson : Successor → Json.Value
  | .word w => .obj [("word", .str w)]
  | .stop => .str "end"

/-- The JSON of a node. -/
def Node.toJson (n : Node) : Json.Value :=
  .obj [("edges", .arr (n.edges.map fun e => .arr [e.1.toJson, .num (.int e.2.toNat)])),
        ("total", .num (.int n.total.toNat))]

/-- The JSON of a graph. -/
def Graph.toJson (g : Graph) : Json.Value :=
  .obj [("start", g.start.toJson), ("words", .obj (g.words.map fun e => (e.1, e.2.toJson)))]

/-- Put a key and value into an ordered map: replace the value of a present key in place, or
append. -/
def putOrdered {κ α : Type} [BEq κ] (m : List (κ × α)) (k : κ) (v : α) : List (κ × α) :=
  if m.any (fun e => e.1 == k) then m.map fun e => if e.1 == k then (k, v) else e
  else m ++ [(k, v)]

/-- Read a successor. -/
def readSuccessor : Json.Value → Except DecodeError Successor
  | .str "end" => .ok .stop
  | .str "word" => .error (.invalidType "unit variant" "newtype variant")
  | .str s => .error (.unknownVariant s ["word", "end"])
  | .obj [(k, v)] =>
    if k = "word" then (readString v).map .word
    else if k = "end" then
      match v with
      | .null => .ok .stop
      | j => .error (.invalidType j.unexpected "unit")
    else .error (.unknownVariant k ["word", "end"])
  | .obj _ => .error (.invalidValue "map" "map with a single key")
  | j => .error (.invalidType j.unexpected "string or map")

/-- Read one `[successor, count]` pair. -/
def readEdge : Json.Value → Except DecodeError (Successor × UInt64)
  | .arr xs => do
    let s ← match xs with
      | a :: _ => readSuccessor a
      | [] => throw (.invalidLength 0 "a tuple of size 2")
    let c ← match xs with
      | _ :: b :: _ => readWord b
      | _ => throw (.invalidLength 1 "a tuple of size 2")
    noExtra xs 2
    pure (s, c)
  | j => .error (.invalidType j.unexpected "a tuple of size 2")

/-- Read the edges of a node. -/
def readEdges : Json.Value → Except DecodeError (List (Successor × UInt64))
  | .arr xs => xs.foldlM (fun m x => do let (s, c) ← readEdge x; pure (putOrdered m s c)) []
  | j => .error (.invalidType j.unexpected "a sequenced map")

/-- Read a node. -/
def readNode : Json.Value → Except DecodeError Node
  | .obj kvs => do
    let step (acc : Option (List (Successor × UInt64)) × Option UInt64) (kv : String × Json.Value) :
        Except DecodeError (Option (List (Successor × UInt64)) × Option UInt64) :=
      if kv.1 = "edges" then do pure (some (← readEdges kv.2), acc.2)
      else if kv.1 = "total" then do pure (acc.1, some (← readWord kv.2))
      else pure acc
    let (edges, total) ← kvs.foldlM step (none, none)
    let some edges := edges | throw (.missingField "edges")
    let some total := total | throw (.missingField "total")
    pure { edges, total }
  | .arr xs => do
    let expected := "struct MarkovNode with 2 elements"
    let edges ← match xs with
      | a :: _ => readEdges a
      | [] => throw (.invalidLength 0 expected)
    let total ← match xs with
      | _ :: b :: _ => readWord b
      | _ => throw (.invalidLength 1 expected)
    noExtra xs 2
    pure { edges, total }
  | j => .error (.invalidType j.unexpected "struct MarkovNode")

/-- Read the word nodes. -/
def readWordNodes : Json.Value → Except DecodeError (List (String × Node))
  | .obj kvs => kvs.foldlM (fun m kv => do pure (putOrdered m kv.1 (← readNode kv.2))) []
  | j => .error (.invalidType j.unexpected "a map")

/-- Read a graph. -/
def Graph.ofJson : Json.Value → Except DecodeError Graph
  | .obj kvs => do
    let step (acc : Option Node × Option (List (String × Node))) (kv : String × Json.Value) :
        Except DecodeError (Option Node × Option (List (String × Node))) :=
      if kv.1 = "start" then do pure (some (← readNode kv.2), acc.2)
      else if kv.1 = "words" then do pure (acc.1, some (← readWordNodes kv.2))
      else pure acc
    let (start, ws) ← kvs.foldlM step (none, none)
    let some start := start | throw (.missingField "start")
    let some words := ws | throw (.missingField "words")
    pure { start, words }
  | .arr xs => do
    let expected := "struct MarkovGraph with 2 elements"
    let start ← match xs with
      | a :: _ => readNode a
      | [] => throw (.invalidLength 0 expected)
    let words ← match xs with
      | _ :: b :: _ => readWordNodes b
      | _ => throw (.invalidLength 1 expected)
    noExtra xs 2
    pure { start, words }
  | j => .error (.invalidType j.unexpected "struct MarkovGraph")

end Chatbot.Words
