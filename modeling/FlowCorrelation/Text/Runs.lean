namespace FlowCorrelation.Text

def inRuns (runs : Array (Nat × Nat)) (n : Nat) : Bool :=
  runs.any (fun (first, last) ↦ first ≤ n && n ≤ last)

end FlowCorrelation.Text
