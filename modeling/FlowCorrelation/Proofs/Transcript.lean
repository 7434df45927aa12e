namespace FlowCorrelation

variable {σ α β : Type} {step : σ → α → σ} {note : σ → α → List β} {s : σ} {noted : List β}

def transcript (step : σ → α → σ) (note : σ → α → List β) : σ → List α → List β
  | _, [] => []
  | s, a :: l => note s a ++ transcript step note (step s a) l

theorem append_transcript_induction {P : σ → List β → Prop} (l : List α) (h : P s noted)
    (hstep : ∀ s, ∀ a ∈ l, ∀ noted, P s noted → P (step s a) (noted ++ note s a)) :
    P (l.foldl step s) (noted ++ transcript step note s l) := by
  induction l generalizing s noted with
  | nil =>
    rw [transcript, List.append_nil]
    exact h
  | cons a l ih =>
    rw [List.foldl_cons, transcript, ← List.append_assoc]
    apply ih
    · exact hstep s a List.mem_cons_self noted h
    · intro s b hb
      exact hstep s b (List.mem_cons_of_mem a hb)

theorem transcript_induction {P : σ → List β → Prop} (l : List α) (h : P s [])
    (hstep : ∀ s, ∀ a ∈ l, ∀ noted, P s noted → P (step s a) (noted ++ note s a)) :
    P (l.foldl step s) (transcript step note s l) :=
  append_transcript_induction l h hstep

end FlowCorrelation
