import GatedStore.Json.Basic
import GatedStore.Proofs.TableFacts

namespace GatedStore

namespace Json

def LastMember (name : String) (v : Json) (ms : List (String × Json)) : Prop :=
  ∃ before after, ms = before ++ (name, v) :: after ∧ ∀ p ∈ after, p.1 ≠ name

/-- What a value means, in canonical form: of an object, what the last member of each name means, and nothing else. -/
inductive Denotes : Json → Json → Prop
  | null : Denotes .null .null
  | bool (b : Bool) : Denotes (.bool b) (.bool b)
  | number (n : Number) : Denotes (.number n) (.number n)
  | string (s : String) : Denotes (.string s) (.string s)
  | array {vs ws : List Json} (hlength : vs.length = ws.length)
      (hitems : ∀ (i : Nat) (v w : Json), vs[i]? = some v → ws[i]? = some w → Denotes v w) :
      Denotes (.array vs) (.array ws)
  | object {ms ns : List (String × Json)} (hincreasing : Increasing ns)
      (hnames : ∀ name, (∃ w, (name, w) ∈ ns) ↔ ∃ v, LastMember name v ms)
      (hmembers : ∀ name v w, LastMember name v ms → (name, w) ∈ ns → Denotes v w) :
      Denotes (.object ms) (.object ns)

variable {name : String} {v w : Json} {ms : List (String × Json)}

theorem lastMember_iff : LastMember name v ms ↔ ms.reverse.lookup name = some v := by
  rw [List.lookup_eq_some_iff]
  constructor
  · rintro ⟨before, after, rfl, hafter⟩
    refine ⟨after.reverse, before.reverse, by simp, fun p hp => ?_⟩
    simpa using (hafter p (List.mem_reverse.mp hp)).symm
  · rintro ⟨after, before, hms, hafter⟩
    refine ⟨before.reverse, after.reverse, ?_, fun p hp heq => ?_⟩
    · rw [← List.reverse_reverse ms, hms]
      simp
    · simpa [heq] using hafter p (List.mem_reverse.mp hp)

theorem LastMember.mem (h : LastMember name v ms) : (name, v) ∈ ms := by
  obtain ⟨before, after, rfl, -⟩ := h
  exact List.mem_append_right _ List.mem_cons_self

theorem lookup_canonicalMembers (done ms : List (String × Json)) (name : String) :
    (canonicalMembers done ms).lookup name =
      ((ms.reverse.lookup name).map canonical).or (done.lookup name) := by
  induction ms generalizing done with
  | nil => simp [canonicalMembers]
  | cons p ms ih =>
    obtain ⟨name', v⟩ := p
    rw [canonicalMembers, ih, lookup_put, List.reverse_cons, List.lookup_append, lookup_cons_if]
    cases ms.reverse.lookup name with
    | some w => rfl
    | none => by_cases h : name = name' <;> simp [h]

theorem increasing_canonicalMembers (ms : List (String × Json)) : Increasing (canonicalMembers [] ms) :=
  (canonicalMembers_canonical [] ms List.Pairwise.nil trivial).1

theorem mem_canonicalMembers_iff :
    (name, w) ∈ canonicalMembers [] ms ↔ ∃ v, LastMember name v ms ∧ v.canonical = w := by
  have hlookup : (name, w) ∈ canonicalMembers [] ms ↔ (canonicalMembers [] ms).lookup name = some w :=
    ⟨lookup_of_mem (increasing_canonicalMembers ms), lookup_mem⟩
  simp only [hlookup, lookup_canonicalMembers, List.lookup_nil, Option.or_none, Option.map_eq_some_iff,
    lastMember_iff]

theorem canonicalItems_eq_map (items : List Json) : canonicalItems items = items.map canonical := by
  induction items with
  | nil => rfl
  | cons v items ih => rw [canonicalItems, ih, List.map_cons]

theorem Denotes.canonical_eq (h : Denotes v w) : v.canonical = w := by
  induction h with
  | null | bool _ | number _ | string _ => rfl
  | array hlength _ ih =>
    rw [canonical, canonicalItems_eq_map]
    refine congrArg Json.array (List.ext_getElem (by simpa using hlength) fun i _ _ => ?_)
    rw [List.getElem_map]
    exact ih i _ _ (List.getElem?_eq_getElem _) (List.getElem?_eq_getElem _)
  | object hincreasing hnames _ ih =>
    refine congrArg Json.object ((increasing_canonicalMembers _).eq_of_mem_iff hincreasing ?_)
    rintro ⟨name, w⟩
    rw [mem_canonicalMembers_iff]
    constructor
    · rintro ⟨v, hv, rfl⟩
      obtain ⟨w, hw⟩ := (hnames name).mpr ⟨v, hv⟩
      rw [ih name v w hv hw]
      exact hw
    · intro hw
      obtain ⟨v, hv⟩ := (hnames name).mp ⟨w, hw⟩
      exact ⟨v, hv, ih name v w hv hw⟩

mutual

theorem denotes_canonical : (v : Json) → Denotes v v.canonical
  | .null => .null
  | .bool b => .bool b
  | .number n => .number n
  | .string s => .string s
  | .array items => by
    rw [canonical, canonicalItems_eq_map]
    refine .array (List.length_map _).symm fun i v w hv hw => ?_
    rw [List.getElem?_map, hv] at hw
    cases hw
    exact denotes_canonicalItems items v (List.mem_of_getElem? hv)
  | .object members => by
    rw [canonical]
    refine .object (increasing_canonicalMembers members) (fun name => ?_) fun name v w hv hw => ?_
    · simp only [mem_canonicalMembers_iff]
      exact ⟨fun ⟨w, v, hv, _⟩ => ⟨v, hv⟩, fun ⟨v, hv⟩ => ⟨_, v, hv, rfl⟩⟩
    · obtain ⟨v', hv', rfl⟩ := mem_canonicalMembers_iff.mp hw
      rw [lastMember_iff] at hv hv'
      cases hv.symm.trans hv'
      exact denotes_canonicalMembers members _ (lastMember_iff.mpr hv).mem

theorem denotes_canonicalItems : (items : List Json) → ∀ v ∈ items, Denotes v v.canonical
  | [], _, h => absurd h List.not_mem_nil
  | v :: items, _, h => by
    rcases List.mem_cons.mp h with heq | h
    · rw [heq]
      exact denotes_canonical v
    · exact denotes_canonicalItems items _ h

theorem denotes_canonicalMembers : (members : List (String × Json)) → ∀ p ∈ members, Denotes p.2 p.2.canonical
  | [], _, h => absurd h List.not_mem_nil
  | (name, v) :: members, _, h => by
    rcases List.mem_cons.mp h with heq | h
    · rw [heq]
      exact denotes_canonical v
    · exact denotes_canonicalMembers members _ h

end

theorem denotes_iff : Denotes v w ↔ v.canonical = w := by
  constructor
  · exact Denotes.canonical_eq
  · rintro rfl
    exact denotes_canonical v

end Json

theorem Payload.ofJson?_eq_some_iff {v : Json} {p : Payload} :
    ofJson? v = some p ↔ v.Denotes (.object p.members.pairs) := by
  rw [Json.denotes_iff]
  cases v with
  | object ms =>
    obtain ⟨⟨pairs, increasing⟩, canonical⟩ := p
    simp only [ofJson?, ofMembers, Json.canonical, Option.some.injEq, mk.injEq, Table.mk.injEq, Json.object.injEq]
  | null | bool _ | number _ | string _ | array _ => simp [ofJson?, Json.canonical]

end GatedStore
