import HiDumper.Native.FdLinks
import Mathlib.Order.Lattice

/-!
# TopN

Model of `DumpManagerService::TopN` and `FdThreadDumper::TopN`, which are the same text,
as functions of their own: for every counter and every `n`, where `FdLinks` has them for
the numbers that the two classes pass. A count is an `int` in the source and is only
compared, so it is an element of any linear order here. `none` is undefined behaviour:
`top()` of an empty priority queue.
-/

namespace HiDumper.Native

/-- `std::priority_queue` of entries compared by count, on a vector whose front is the top:
    one with the smallest count, of which there may be several. -/
structure CountQueue (β : Type) [LinearOrder β] where
  push : List (String × β) → String × β → List (String × β)
  pop : List (String × β) → List (String × β)
  /-- The vectors that the queue makes. -/
  IsHeap : List (String × β) → Prop
  isHeap_nil : IsHeap []
  isHeap_push : ∀ minHeap entry, IsHeap minHeap → IsHeap (push minHeap entry)
  isHeap_pop : ∀ minHeap, IsHeap minHeap → IsHeap (pop minHeap)
  push_perm : ∀ minHeap entry, (push minHeap entry).Perm (entry :: minHeap)
  pop_perm : ∀ minHeap, (pop minHeap).Perm minHeap.tail
  top_le : ∀ top rest, IsHeap (top :: rest) → ∀ entry ∈ rest, top.2 ≤ entry.2

namespace TopN

variable {β : Type} [LinearOrder β]

/-- The comparison of `std::sort`. -/
def ranksBefore (a b : String × β) : Bool := (a.2 = b.2 && a.1 < b.1) || a.2 > b.2

/-- One turn of the loop over the counter. -/
def offer (queue : CountQueue β) (n : Nat) (minHeap : List (String × β)) (kv : String × β) :
    Option (List (String × β)) :=
  if minHeap.length < n then some (queue.push minHeap kv)
  else
    match minHeap with
    | [] => none
    | top :: rest =>
      some (if kv.2 > top.2 then queue.push (queue.pop (top :: rest)) kv else top :: rest)

/-- `while (!minHeap.empty())`, with the number of elements as the number of rounds. -/
def drain (queue : CountQueue β) : Nat → List (String × β) → List (String × β)
  | 0, _ => []
  | _, [] => []
  | rounds + 1, top :: rest => top :: drain queue rounds (queue.pop (top :: rest))

/-- `TopN`, where `counter` lists the map in the order it is visited. -/
def topN (queue : CountQueue β) (counter : List (String × β)) (n : Nat) :
    Option (List (String × β)) := do
  let minHeap ← counter.foldlM (offer queue n) []
  some ((drain queue minHeap.length minHeap).mergeSort fun a b => !ranksBefore b a)

end TopN

end HiDumper.Native
