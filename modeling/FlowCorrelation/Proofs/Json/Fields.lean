import FlowCorrelation.Json.Fields
import FlowCorrelation.Proofs.Json.RoundTrip
import Mathlib.Data.List.Nodup

namespace FlowCorrelation

namespace Dict

variable {β : Type}

theorem insertEntry_of_lt {k : String} {v : β} {es : List (String × β)} (h : ∀ e ∈ es, e.1 < k) :
    insertEntry k v es = es ++ [(k, v)] := by
  induction es with
  | nil => rfl
  | cons e es ih =>
    have he := h e List.mem_cons_self
    have hlt : ¬ k < e.1 := fun hlt ↦ String.lt_irrefl k (String.lt_trans hlt he)
    have hne : k ≠ e.1 := fun heq ↦ String.lt_irrefl k (heq ▸ he)
    rw [insertEntry, if_neg hlt, if_neg hne, ih (fun f hf ↦ h f (List.mem_cons_of_mem e hf)),
      List.cons_append]

theorem entries_foldl_insert {l : List (String × β)} {d : Dict β}
    (h : (d.entries ++ l).Pairwise (fun a b ↦ a.1 < b.1)) :
    (l.foldl (fun d e ↦ d.insert e.1 e.2) d).entries = d.entries ++ l := by
  induction l generalizing d with
  | nil => exact (List.append_nil _).symm
  | cons e l ih =>
    have hlast : ∀ f ∈ d.entries, f.1 < e.1 := fun f hf ↦
      (List.pairwise_append.1 h).2.2 f hf e List.mem_cons_self
    have hinsert : (d.insert e.1 e.2).entries = d.entries ++ [e] := insertEntry_of_lt hlast
    have hassoc : (d.insert e.1 e.2).entries ++ l = d.entries ++ e :: l := by
      rw [hinsert, List.append_assoc, List.singleton_append]
    rw [List.foldl_cons, ih (hassoc ▸ h), hassoc]

theorem ofList_entries (d : Dict β) : ofList d.entries = d :=
  ext (entries_foldl_insert (d := empty) d.ascending)

end Dict

namespace Json

theorem dict?_ofDict {α : Type} {read : Json → Option α} (write : α → Json)
    (h : ∀ a, read (write a) = some a) (d : Dict α) : dict? read (ofDict write d) = some d := by
  have hentries (es : List (String × α)) :
      (es.map (fun e ↦ (e.1, write e.2))).mapM (fun e ↦ (read e.2).map (fun a ↦ (e.1, a))) =
        some es := by
    induction es with
    | nil => rfl
    | cons e es ih => simp [ih, h]
  rw [ofDict, dict?, hentries, Option.map_some, Dict.ofList_entries]

theorem optional_text {o : Option String} : ∀ s ∈ o, optional asText? (.text s) = some (some s) := by
  intro s _
  rfl

theorem asFloat?_ofFloat {x : Float} (h : x.isFinite) : (ofFloat x).asFloat? = some x := by
  rw [ofFloat, if_pos h]
  rfl

theorem optional_ofFloat {o : Option Float} (h : ∀ x ∈ o, x.isFinite) :
    ∀ x ∈ o, optional asFloat? (ofFloat x) = some (some x) := by
  intro x hx
  rw [ofFloat, if_pos (h x hx)]
  rfl

namespace Members

variable {α : Type} {m n : Members} {name : String} {read : Json → Option α}

@[simp] theorem get?_nil (name : String) : get? [] name = none := rfl

@[simp] theorem get?_cons (key : String) (j : Json) (m : Members) (name : String) :
    get? ((key, j) :: m) name = if key = name then some j else m.get? name := by
  by_cases h : key = name <;> simp [get?, h]

@[simp] theorem get?_append (m n : Members) (name : String) :
    get? (m ++ n) name = (m.get? name).or (n.get? name) := by
  simp only [get?, List.find?_append, Option.map_or]

@[simp] theorem get?_ofOption (key : String) (write : α → Json) (o : Option α) (name : String) :
    (ofOption key write o).get? name = if key = name then o.map write else none := by
  cases o <;> simp [ofOption]

def attributesValue? (d : Dict String) : Option Json :=
  if d.isEmpty then none else some (ofDict .text d)

@[simp] theorem get?_attributesField (key : String) (d : Dict String) (name : String) :
    get? (attributesField key d) name = if key = name then attributesValue? d else none := by
  simp only [attributesField, attributesValue?]
  split <;> simp

theorem length_all (m : Members) (name : String) :
    (m.all name).length = (m.map Prod.fst).count name := by
  induction m with
  | nil => rfl
  | cons e m ih =>
    rw [all, List.length_map] at ih ⊢
    by_cases h : e.1 = name <;> simp [h, ih]

def NamedBy (m : Members) (names : List String) : Prop := (m.map Prod.fst).Sublist names

theorem namedBy_self (m : Members) : m.NamedBy (m.map Prod.fst) := List.Sublist.refl _

theorem NamedBy.append {names names' : List String} (hm : m.NamedBy names) (hn : n.NamedBy names') :
    (m ++ n).NamedBy (names ++ names') := by
  rw [NamedBy, List.map_append]
  exact List.Sublist.append hm hn

theorem namedBy_ofOption (key : String) (write : α → Json) (o : Option α) :
    (ofOption key write o).NamedBy [key] := by
  cases o with
  | none => exact List.nil_sublist _
  | some a => exact List.Sublist.refl _

theorem namedBy_attributesField (key : String) (d : Dict String) :
    (attributesField key d).NamedBy [key] := by
  rw [attributesField]
  split
  · exact List.nil_sublist _
  · exact List.Sublist.refl _

theorem NamedBy.fields?_object {names : List String} (h : m.NamedBy names) (hnames : names.Nodup) :
    (Json.object m).fields? names = some m := by
  have hunique : m.unique names := by
    simp only [unique, List.all_eq_true, decide_eq_true_eq, length_all]
    exact fun name _ ↦ List.nodup_iff_count_le_one.1 (hnames.sublist h) name
  rw [fields?, if_pos hunique]

theorem required_of_get? {j : Json} (h : m.get? name = some j) : m.required name read = read j := by
  rw [required, h, Option.bind_some]

theorem withDefault_of_get? {default : α} {j : Json} (h : m.get? name = some j) :
    m.withDefault name default read = read j := by
  rw [withDefault, h]

theorem optional_of_get? {write : α → Json} {o : Option α} (h : m.get? name = o.map write)
    (hread : ∀ a ∈ o, Json.optional read (write a) = some (some a)) :
    m.optional name read = some o := by
  rw [optional, withDefault, h]
  cases o with
  | none => rfl
  | some a => exact hread a rfl

end Members

variable {depth : Nat}

theorem legible_ofFloat {x : Float} (hx : x.isFinite)
    (hread : number (realChars x) = some (.real x, [])) : Legible depth (ofFloat x) := by
  rw [ofFloat, if_pos hx]
  exact Legible.numeral hread

theorem legible_attributes (d : Dict String) : Legible (depth + 1) (ofDict .text d) := by
  refine Legible.object (fun e he ↦ ?_)
  obtain ⟨entry, -, rfl⟩ := List.mem_map.1 he
  exact Legible.text entry.2

def LegibleMembers (depth : Nat) (m : Members) : Prop := ∀ e ∈ m, Legible depth e.2

namespace LegibleMembers

variable {m n : Members}

theorem nil : LegibleMembers depth [] := List.forall_mem_nil _

theorem cons {name : String} {j : Json} (hj : Legible depth j) (hm : LegibleMembers depth m) :
    LegibleMembers depth ((name, j) :: m) :=
  List.forall_mem_cons.2 ⟨hj, hm⟩

theorem append (hm : LegibleMembers depth m) (hn : LegibleMembers depth n) :
    LegibleMembers depth (m ++ n) :=
  List.forall_mem_append.2 ⟨hm, hn⟩

theorem ofOption {α : Type} {o : Option α} {write : α → Json} (h : ∀ a ∈ o, Legible depth (write a))
    (name : String) : LegibleMembers depth (Members.ofOption name write o) := by
  cases o with
  | none => exact nil
  | some a => exact cons (h a rfl) nil

theorem attributesField (name : String) (d : Dict String) :
    LegibleMembers (depth + 1) (Json.attributesField name d) := by
  rw [Json.attributesField]
  split
  · exact nil
  · exact cons (legible_attributes d) nil

end LegibleMembers

end Json

end FlowCorrelation
