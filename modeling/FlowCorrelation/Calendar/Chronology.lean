import FlowCorrelation.Calendar.Instant

namespace FlowCorrelation

variable {α : Type}

def notAfter (time : α → Instant) (a b : α) : Bool := time a ≤ time b

theorem notAfter_trans (time : α → Instant) (a b c : α) (h : notAfter time a b)
    (h' : notAfter time b c) : notAfter time a c :=
  decide_eq_true (Instant.le_trans (of_decide_eq_true h) (of_decide_eq_true h'))

theorem notAfter_total (time : α → Instant) (a b : α) :
    (notAfter time a b || notAfter time b a) = true := by
  simpa [notAfter] using Instant.le_total (time a) (time b)

/-- The list in order of time; what has equal times keeps its order. -/
def chronological (time : α → Instant) (l : List α) : List α := l.mergeSort (notAfter time)

theorem chronological_perm (time : α → Instant) (l : List α) : (chronological time l).Perm l :=
  List.mergeSort_perm l _

theorem pairwise_chronological (time : α → Instant) (l : List α) :
    (chronological time l).Pairwise (fun a b ↦ time a ≤ time b) :=
  (List.pairwise_mergeSort (notAfter_trans time) (notAfter_total time) l).imp
    (fun h ↦ of_decide_eq_true h)

def millisSince (a b : Instant) : Float := Float.ofInt (a.microsSince b) / 1000

structure Period where
  start : Instant
  stop : Instant
  ordered : start ≤ stop
deriving DecidableEq

namespace Period

def between (a b : Instant) : Period :=
  if h : b < a then ⟨b, a, (Instant.le_total b a).resolve_right (Instant.not_le.2 h)⟩
  else ⟨a, b, Instant.not_lt.1 h⟩

def millis (p : Period) : Float := millisSince p.stop p.start

def contains (p : Period) (t : Instant) : Bool := p.start ≤ t && t ≤ p.stop

end Period

end FlowCorrelation
