import FlowCorrelation.Proofs.Cause.Accusation
import FlowCorrelation.Proofs.Cause.Route
import FlowCorrelation.Proofs.Numeral.Exact
import Mathlib.Data.List.FinRange

namespace FlowCorrelation

namespace Chain

variable {K : Type} [Zero K] [Add K] [LinearOrder K] {weight : CauseEvent → CauseEvent → K}
  {events : List CauseEvent}

def link (weight : CauseEvent → CauseEvent → K) (events : List CauseEvent)
    (i j : Fin events.length) : K :=
  weight (events.get i) (events.get j)

def IsIncidentAt (events : List CauseEvent) (i : Fin events.length) : Prop :=
  (events.get i).kind.isIncident

/-- Whether some incident is linked to a later one. -/
def HasLink (weight : CauseEvent → CauseEvent → K) (events : List CauseEvent) : Prop :=
  ∃ i j, i < j ∧ IsIncidentAt events i ∧ IsIncidentAt events j ∧ 0 < link weight events i j

/-- What the chain of some events has to be, for any weights of links: the events on the primary
route through the places of incidents, and without any link the first incident alone. -/
structure IsPrimary (weight : CauseEvent → CauseEvent → K) (events : List CauseEvent)
    (c : Chain K) : Prop where
  linked : HasLink weight events → ∃ r j,
    IsPrimaryRoute (link weight events) (IsIncidentAt events) r j ∧
      c.events = (r ++ [j]).map events.get ∧ c.weight = routeWeight (link weight events) (r ++ [j])
  unlinked : ¬ HasLink weight events →
    c.events = (events.find? (·.kind.isIncident)).toList ∧ c.weight = 0
  isEmpty_iff : c.isEmpty ↔ ∀ e ∈ events, ¬ e.kind.isIncident
  incidents : ∀ e ∈ c.events, e.kind.isIncident
  sublist : c.events.Sublist events
  ordered : c.events.Pairwise (·.timestamp ≤ ·.timestamp)
  walk_ends : WellFounded (IsPredecessor (link weight events) (IsIncidentAt events))

def incidentPlaces (events : List CauseEvent) : List (Fin events.length) :=
  (List.finRange events.length).filter (fun i ↦ (events.get i).kind.isIncident)

theorem mem_incidentPlaces {i : Fin events.length} :
    i ∈ incidentPlaces events ↔ IsIncidentAt events i := by
  simp [incidentPlaces, IsIncidentAt]

theorem pairwise_incidentPlaces : (incidentPlaces events).Pairwise (· < ·) :=
  (List.pairwise_lt_finRange _).sublist List.filter_sublist

theorem map_get_incidentPlaces :
    (incidentPlaces events).map events.get = events.filter (·.kind.isIncident) := by
  conv_rhs => rw [← List.map_get_finRange events, List.filter_map]
  rfl

/-- Without any link the primary route is the first incident alone. -/
theorem eq_first_of_not_hasLink (h : ¬ HasLink weight events) {r : List (Fin events.length)}
    {j : Fin events.length}
    (hroute : IsPrimaryRoute (link weight events) (IsIncidentAt events) r j) :
    r = [] ∧ events.find? (·.kind.isIncident) = some (events.get j) := by
  have hr : r = [] := by
    rcases r.eq_nil_or_concat' with rfl | ⟨r, i, rfl⟩
    · rfl
    · have hlast := hroute.route
      rw [List.append_assoc] at hlast
      obtain ⟨hbefore, hj, hlt, hlink⟩ := isRoute_concat.1 hlast
      exact absurd ⟨i, j, hlt, hbefore.stops i (by simp), hj, hlink⟩ h
  subst hr
  refine ⟨rfl, List.find?_eq_some_iff_getElem.2
    ⟨hroute.route.stops j (by simp), j, j.isLt, rfl, fun i hi ↦ ?_⟩⟩
  by_contra hincident
  have hle := hroute.earliest [] ⟨i, hi.trans j.isLt⟩
    (isRoute_singleton.2 (by simpa [IsIncidentAt] using hincident)) rfl
  exact absurd hle (not_le.2 hi)

variable [One K] [Sub K] [Mul K] [Neg K] [Scalar K] [AddRightMono K] {g : ServiceGraph}
  {s : CauseSettings}

theorem ofEvents_cases (g : ServiceGraph) (s : CauseSettings) (events : List CauseEvent) :
    (events.filter (·.kind.isIncident) = [] ∧ (ofEvents g s events : Chain K) = empty) ∨
      ∃ r j, IsPrimaryRoute (link (CauseEvent.linkWeight (K := K) g s) events)
          (IsIncidentAt events) r j ∧
        (ofEvents g s events : Chain K).events = (r ++ [j]).map events.get ∧
        (ofEvents g s events : Chain K).weight =
          routeWeight (link (CauseEvent.linkWeight g s) events) (r ++ [j]) := by
  unfold ofEvents
  cases h : heaviestPath (CauseEvent.linkWeight (K := K) g s)
    (events.filter (·.kind.isIncident)) with
  | none => exact Or.inl ⟨heaviestPath_eq_none_iff.1 h, rfl⟩
  | some q =>
    refine Or.inr ?_
    rw [← map_get_incidentPlaces, heaviestPath_map] at h
    obtain ⟨places, hplaces, rfl⟩ := Option.map_eq_some_iff.1 h
    obtain ⟨hroute, hweight⟩ := isPrimaryRoute_of_heaviestPath pairwise_incidentPlaces
      (fun _ ↦ mem_incidentPlaces) hplaces
    refine ⟨_, _, hroute, ?_, ?_⟩
    · rw [← Path.toList_eq_concat, ← Path.toList_map]
      rfl
    · rw [← Path.toList_eq_concat]
      exact hweight

/-- The chain of a flow is a heaviest sequence of linked incidents. Of equally heavy ones it ends
earliest, and each of its incidents is the earliest that a heaviest sequence to the next one comes
from. -/
theorem isPrimary_ofEvents (g : ServiceGraph) (s : CauseSettings)
    (hordered : events.Pairwise (·.timestamp ≤ ·.timestamp)) :
    IsPrimary (CauseEvent.linkWeight g s) events (ofEvents g s events : Chain K) := by
  have hincidents : (ofEvents g s events : Chain K).events.Sublist
      (events.filter (·.kind.isIncident)) := events_sublist
  have hsublist := hincidents.trans List.filter_sublist
  refine ⟨fun hlink ↦ ?_, fun hlink ↦ ?_, isEmpty_ofEvents,
    fun e he ↦ (List.mem_filter.1 (hincidents.subset he)).2, hsublist, hordered.sublist hsublist,
    wellFounded_isPredecessor⟩
  · refine (ofEvents_cases g s events).resolve_left (fun ⟨hnone, _⟩ ↦ ?_)
    obtain ⟨i, -, -, hi, -⟩ := hlink
    exact List.filter_eq_nil_iff.1 hnone _ (List.get_mem events i) hi
  · rcases ofEvents_cases (K := K) g s events with
      ⟨hnone, hempty⟩ | ⟨r, j, hroute, hevents, hweight⟩
    · rw [hempty, List.find?_eq_none.2 (List.filter_eq_nil_iff.1 hnone)]
      exact ⟨rfl, rfl⟩
    · obtain ⟨rfl, hfirst⟩ := eq_first_of_not_hasLink hlink hroute
      rw [hevents, hfirst]
      exact ⟨rfl, hweight⟩

end Chain

theorem CauseEvent.linkWeight_pos {g : ServiceGraph} {s : CauseSettings} {a b : CauseEvent}
    (hgap : ¬ (millisSince b.timestamp a.timestamp < 0 ∨
      Float.ofNat s.maxLookbackMs < millisSince b.timestamp a.timestamp))
    (hservice : a.service = b.service) {m : Nat} {q : Int} (hm : 0 < m)
    (haffinity : Numeral.Double.ofFloat (a.kind.affinity b.kind) = .finite false m q) :
    (0 : ℝ) < linkWeight g s a b := by
  have hnear : (nearness g s a b : ℝ) = 1 := by simp [nearness, hservice]
  have hkinds : (0 : ℝ) < Scalar.ofFloat (a.kind.affinity b.kind) := by
    rw [ofFloat_of_finite haffinity, if_neg Bool.false_ne_true, one_mul]
    positivity
  rw [linkWeight, if_neg hgap, hnear, mul_one]
  exact mul_pos (Real.exp_pos _) hkinds

namespace Chain

theorem isPrimary_of_failed_retry :
    let events : List CauseEvent := [⟨⟨0, 0⟩, "db", .spanError, "query failed (timeout)"⟩,
      ⟨⟨0, 5000000⟩, "web", .other, "GET finished"⟩,
      ⟨⟨0, 9000000⟩, "db", .logError, "logged \"retry failed\""⟩]
    events.Pairwise (·.timestamp ≤ ·.timestamp) ∧
      HasLink (CauseEvent.linkWeight (K := ℝ) {} {}) events ∧
      IsPrimary (CauseEvent.linkWeight (K := ℝ) {} {}) events (ofEvents {} {} events) := by
  intro events
  have hordered : events.Pairwise (·.timestamp ≤ ·.timestamp) := by decide
  refine ⟨hordered, ⟨⟨0, by decide⟩, ⟨2, by decide⟩, by decide, rfl, rfl, ?_⟩,
    isPrimary_ofEvents {} {} hordered⟩
  exact CauseEvent.linkWeight_pos (by decide +kernel) rfl (by decide : 0 < 8106479329266893)
    (by decide +kernel : Numeral.Double.ofFloat 0.9 = .finite false 8106479329266893 (-53))

end Chain

end FlowCorrelation
