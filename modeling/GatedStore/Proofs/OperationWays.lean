import GatedStore.Proofs.ListPairs
import GatedStore.Proofs.PatternText
import GatedStore.Proofs.Specificity
import GatedStore.Service.Endpoint

namespace GatedStore

namespace Operation

def tails : Operation → List (Method × List Segment)
  | .list => [(.get, [.literal "list"]), (.get, [])]
  | .detail => [(.get, [.literal "detail", .param "id"]), (.get, [.param "id"])]
  | .create => [(.post, [.literal "create"]), (.post, [.literal "add"])]
  | .edit => [(.post, [.literal "edit"])]
  | .remove => [(.post, [.literal "remove"])]

theorem ways_tails (op : Operation) :
    List.Forall₂ (fun way tail => way.1 = tail.1 ∧ (Pattern.parse way.2).map (·.segments) = .ok tail.2)
      op.ways op.tails := by
  cases op with
  | list => exact .cons ⟨rfl, rfl⟩ (.cons ⟨rfl, rfl⟩ .nil)
  | detail => exact .cons ⟨rfl, rfl⟩ (.cons ⟨rfl, rfl⟩ .nil)
  | create => exact .cons ⟨rfl, rfl⟩ (.cons ⟨rfl, rfl⟩ .nil)
  | edit => exact .cons ⟨rfl, rfl⟩ .nil
  | remove => exact .cons ⟨rfl, rfl⟩ .nil

def words : List String :=
  ["list", "create", "edit", "remove", "add"]

inductive Asks : Method → List String → Operation → Option String → Prop
  | list : Asks .get [] .list none
  | listByName : Asks .get ["list"] .list none
  | detailByName (x : String) : Asks .get ["detail", x] .detail (some x)
  | detail (x : String) : x ∉ words → Asks .get [x] .detail (some x)
  | create : Asks .post ["create"] .create none
  | add : Asks .post ["add"] .create none
  | edit : Asks .post ["edit"] .edit none
  | remove : Asks .post ["remove"] .remove none

theorem tail_cases {op : Operation} {m : Method} {tail : List Segment} (h : (m, tail) ∈ op.tails) :
    tail = [] ∨ tail = [.param "id"] ∨ tail = [.literal "detail", .param "id"] ∨
      ∃ word ∈ words, tail = [.literal word] := by
  cases op <;> simp only [tails, List.mem_cons, Prod.mk.injEq, List.not_mem_nil, or_false] at h
  case list =>
    rcases h with ⟨-, rfl⟩ | ⟨-, rfl⟩
    · exact Or.inr (Or.inr (Or.inr ⟨"list", by decide, rfl⟩))
    · exact Or.inl rfl
  case detail =>
    rcases h with ⟨-, rfl⟩ | ⟨-, rfl⟩
    · exact Or.inr (Or.inr (Or.inl rfl))
    · exact Or.inr (Or.inl rfl)
  case create =>
    rcases h with ⟨-, rfl⟩ | ⟨-, rfl⟩
    · exact Or.inr (Or.inr (Or.inr ⟨"create", by decide, rfl⟩))
    · exact Or.inr (Or.inr (Or.inr ⟨"add", by decide, rfl⟩))
  case edit =>
    obtain ⟨-, rfl⟩ := h
    exact Or.inr (Or.inr (Or.inr ⟨"edit", by decide, rfl⟩))
  case remove =>
    obtain ⟨-, rfl⟩ := h
    exact Or.inr (Or.inr (Or.inr ⟨"remove", by decide, rfl⟩))

theorem word_tail {word : String} (h : word ∈ words) : ∃ op m, (m, [.literal word]) ∈ tails op := by
  simp only [words, List.mem_cons, List.not_mem_nil, or_false] at h
  rcases h with rfl | rfl | rfl | rfl | rfl
  · exact ⟨.list, .get, by simp [tails]⟩
  · exact ⟨.create, .post, by simp [tails]⟩
  · exact ⟨.edit, .post, by simp [tails]⟩
  · exact ⟨.remove, .post, by simp [tails]⟩
  · exact ⟨.create, .post, by simp [tails]⟩

structure Best (rest : List String) (tail : List Segment) : Prop where
  admits : List.Forall₂ Segment.Admits tail rest
  top : ∀ op m tail', (m, tail') ∈ tails op → List.Forall₂ Segment.Admits tail' rest →
    Pattern.segmentsMoreSpecific tail' tail = false

theorem best_word (word : String) : Best [word] [.literal word] := by
  refine ⟨.cons rfl .nil, fun op m tail' ht hadm => ?_⟩
  rcases tail_cases ht with rfl | rfl | rfl | ⟨word', -, rfl⟩ <;> rfl

theorem best_nil : Best [] [] := by
  refine ⟨.nil, fun op m tail' ht hadm => ?_⟩
  rw [List.forall₂_nil_right_iff] at hadm
  rw [hadm]
  rfl

theorem best_detail (x : String) : Best ["detail", x] [.literal "detail", .param "id"] := by
  refine ⟨.cons rfl (.cons trivial .nil), fun op m tail' ht hadm => ?_⟩
  rcases tail_cases ht with rfl | rfl | rfl | ⟨word, -, rfl⟩ <;> rfl

theorem best_id_iff {x : String} : Best [x] [.param "id"] ↔ x ∉ words := by
  constructor
  · intro h hx
    obtain ⟨op, m, ht⟩ := word_tail hx
    have htop := h.top op m _ ht (.cons rfl .nil)
    cases htop
  · intro hx
    refine ⟨.cons trivial .nil, fun op m tail' ht hadm => ?_⟩
    rcases tail_cases ht with rfl | rfl | rfl | ⟨word, hword, rfl⟩
    · rfl
    · rfl
    · cases hadm with
      | cons _ hadm => cases hadm
    · cases hadm with
      | cons he _ => exact absurd ((show word = x from he) ▸ hword) hx

theorem Best.word_rest {word : String} {rest : List String} (h : Best rest [.literal word]) : rest = [word] := by
  have hadm := h.admits
  rw [List.forall₂_cons_left_iff] at hadm
  obtain ⟨v, vs, hv, hvs, rfl⟩ := hadm
  rw [List.forall₂_nil_left_iff] at hvs
  rw [hvs, ← show word = v from hv]

theorem Best.nil_rest {rest : List String} (h : Best rest []) : rest = [] :=
  List.forall₂_nil_left_iff.mp h.admits

theorem Best.detail_rest {rest : List String} (h : Best rest [.literal "detail", .param "id"]) :
    ∃ x, rest = ["detail", x] := by
  have hadm := h.admits
  simp only [List.forall₂_cons_left_iff, List.forall₂_nil_left_iff] at hadm
  obtain ⟨v, -, hv, ⟨x, -, -, rfl, rfl⟩, rfl⟩ := hadm
  exact ⟨x, by rw [← show "detail" = v from hv]⟩

theorem Best.id_rest {rest : List String} (h : Best rest [.param "id"]) : ∃ x, rest = [x] ∧ x ∉ words := by
  have hadm := h.admits
  simp only [List.forall₂_cons_left_iff, List.forall₂_nil_left_iff] at hadm
  obtain ⟨x, -, -, rfl, rfl⟩ := hadm
  exact ⟨x, rfl, best_id_iff.mp h⟩

theorem bindings_word (word : String) : Pattern.bindings [.literal word] [word] = some [] :=
  if_pos rfl

theorem id_eq_none {id : Option String} (h : some [] = some (id.map (("id", ·))).toList) : id = none := by
  cases id with
  | none => rfl
  | some x => cases h

theorem id_eq_some {id : Option String} {x : String}
    (h : some [("id", x)] = some (id.map (("id", ·))).toList) : id = some x := by
  cases id with
  | none => cases h
  | some y =>
    cases h
    rfl

theorem Best.word_id {word : String} {rest : List String} {id : Option String} (h : Best rest [.literal word])
    (hb : Pattern.bindings [.literal word] rest = some (id.map (("id", ·))).toList) :
    rest = [word] ∧ id = none := by
  obtain rfl := h.word_rest
  exact ⟨rfl, id_eq_none ((bindings_word word).symm.trans hb)⟩

theorem asks_iff {m : Method} {rest : List String} {op : Operation} {id : Option String} :
    Asks m rest op id ↔ ∃ tail, (m, tail) ∈ op.tails ∧ Best rest tail ∧
      Pattern.bindings tail rest = some (id.map ("id", ·)).toList := by
  constructor
  · intro h
    cases h with
    | list => exact ⟨[], by simp [tails], best_nil, rfl⟩
    | listByName => exact ⟨_, by simp [tails], best_word _, rfl⟩
    | detailByName x => exact ⟨_, by simp [tails], best_detail x, rfl⟩
    | detail x hx => exact ⟨_, by simp [tails], best_id_iff.mpr hx, rfl⟩
    | create => exact ⟨_, by simp [tails], best_word _, rfl⟩
    | add => exact ⟨_, by simp [tails], best_word _, rfl⟩
    | edit => exact ⟨_, by simp [tails], best_word _, rfl⟩
    | remove => exact ⟨_, by simp [tails], best_word _, rfl⟩
  · rintro ⟨tail, ht, hbest, hb⟩
    cases op <;> simp only [tails, List.mem_cons, Prod.mk.injEq, List.not_mem_nil, or_false] at ht
    case list =>
      rcases ht with ⟨rfl, rfl⟩ | ⟨rfl, rfl⟩
      · obtain ⟨rfl, rfl⟩ := hbest.word_id hb
        exact .listByName
      · obtain rfl := hbest.nil_rest
        obtain rfl := id_eq_none hb
        exact .list
    case detail =>
      rcases ht with ⟨rfl, rfl⟩ | ⟨rfl, rfl⟩
      · obtain ⟨x, rfl⟩ := hbest.detail_rest
        obtain rfl := id_eq_some hb
        exact .detailByName x
      · obtain ⟨x, rfl, hx⟩ := hbest.id_rest
        obtain rfl := id_eq_some hb
        exact .detail x hx
    case create =>
      rcases ht with ⟨rfl, rfl⟩ | ⟨rfl, rfl⟩
      · obtain ⟨rfl, rfl⟩ := hbest.word_id hb
        exact .create
      · obtain ⟨rfl, rfl⟩ := hbest.word_id hb
        exact .add
    case edit =>
      obtain ⟨rfl, rfl⟩ := ht
      obtain ⟨rfl, rfl⟩ := hbest.word_id hb
      exact .edit
    case remove =>
      obtain ⟨rfl, rfl⟩ := ht
      obtain ⟨rfl, rfl⟩ := hbest.word_id hb
      exact .remove

theorem bindings_tail {op : Operation} {m : Method} {tail : List Segment} {rest : List String}
    {bt : List (String × String)} (ht : (m, tail) ∈ op.tails) (h : Pattern.bindings tail rest = some bt) :
    ∃ id : Option String, bt = (id.map (("id", ·))).toList := by
  have hadm := Pattern.admits_of_bindings h
  rcases tail_cases ht with rfl | rfl | rfl | ⟨word, -, rfl⟩ <;>
    simp only [List.forall₂_cons_left_iff, List.forall₂_nil_left_iff] at hadm
  · subst hadm
    cases h
    exact ⟨none, rfl⟩
  · obtain ⟨x, -, -, rfl, rfl⟩ := hadm
    cases h
    exact ⟨some x, rfl⟩
  · obtain ⟨v, -, hv, ⟨x, -, -, rfl, rfl⟩, rfl⟩ := hadm
    obtain rfl : "detail" = v := hv
    cases h
    exact ⟨some x, rfl⟩
  · obtain ⟨v, -, hv, rfl, rfl⟩ := hadm
    obtain rfl : word = v := hv
    obtain rfl := Option.some.inj ((bindings_word word).symm.trans h)
    exact ⟨none, rfl⟩

end Operation

end GatedStore
