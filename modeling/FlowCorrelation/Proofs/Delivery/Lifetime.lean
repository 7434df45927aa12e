import FlowCorrelation.Proofs.Delivery.Recording

namespace FlowCorrelation

namespace PipelineAction

end PipelineAction

namespace Pipeline

open PipelineAction

variable {π τ : Type} {p : Pipeline π τ} {s t u : PipelineState π τ} {l : PipelineLoop}
  {acts : List PipelineAction} {a : PipelineAction} {handled : List (List Record)}

theorem Underway.handled_eq (h : p.Underway s acts t l handled) :
    handled = (sent acts).take (PipelineAction.taken acts) := by
  rw [h.queue, ← h.taken, List.take_left]

theorem Underway.finish (h : p.Underway s acts t l handled) (hfinish : p.step? t .finish = some u) :
    u.loop = none ∧ u.bare = (p.flushFirst p.sinks.length (p.runAll s handled)).bare ∧
      sentInTime acts <+: handled := by
  rw [step?_eq_some_iff h.loop] at hfinish
  cases hfinish with
  | finish n hphase hall =>
    have hflushed : l.flushed = p.sinks.length := by
      have hn : l.flushed = n := by simp [PipelineLoop.flushed, hphase]
      have := h.flushed
      omega
    refine ⟨rfl, hflushed ▸ h.work, ?_⟩
    rcases h.flushing _ hphase with ⟨hwaiting, -⟩ | ⟨-, hearly⟩
    · have hsent : sent acts = handled := by rw [h.queue, hwaiting, List.append_nil]
      exact hsent ▸ sentInTime_prefix
    · exact hearly

end Pipeline

end FlowCorrelation
