import GatedStore.Json.Record
import GatedStore.Proofs.JsonValues
import GatedStore.Proofs.Results
import Mathlib.Data.List.Forall2

/-! Readers of one kind of value against the reader of all values: wherever that reads a value, they read what
the value stands for and end at the same byte. -/

namespace GatedStore.Json.Reader

open Results

/-- Wherever the value is read, to whatever depth, the reader reads `a` in its place. -/
def ReadsAs {α : Type} (read : Reader α) (v : Json) (a : α) : Prop :=
  ∀ ⦃depth s s'⦄, value depth s = .ok (v, s') → read s = .ok (a, s')

inductive Opened (depth : Nat) (s s' : List UInt8) : Json → Prop
  | null (hhead : head s = .ok (.null, s')) : Opened depth s s' .null
  | bool {b : Bool} (hhead : head s = .ok (.bool b, s')) : Opened depth s s' (.bool b)
  | number {n : Number} (hhead : head s = .ok (.number n, s')) : Opened depth s s' (.number n)
  | string {t : String} (hhead : head s = .ok (.string t, s')) : Opened depth s s' (.string t)
  | array {d : Nat} {rest : List UInt8} {vs : List Json} (hdepth : depth = d + 1)
      (hhead : head s = .ok (.sequence, rest)) (hlist : listFrom (value d) rest = .ok (vs, s')) :
      Opened depth s s' (.array vs)
  | object {d : Nat} {rest : List UInt8} {ms : List (String × Json)} (hdepth : depth = d + 1)
      (hhead : head s = .ok (.map, rest)) (hobject : objectFrom (value d) rest = .ok (ms, s')) :
      Opened depth s s' (.object ms)

variable {depth fuel : Nat} {first : Bool} {s s' : List UInt8} {v : Json}

theorem opened_of_value (h : value depth s = .ok (v, s')) : Opened depth s s' v := by
  obtain ⟨inside, hinside, found, rest, hhead, h⟩ :
      ∃ inside, (∀ read ∈ inside, ∃ d, depth = d + 1 ∧ read = value d) ∧
        ∃ found rest, head s = .ok (found, rest) ∧ afterHead inside found rest = .ok (v, s') := by
    cases depth with
    | zero =>
      obtain ⟨⟨found, rest⟩, hhead, h⟩ := bind_eq_ok_iff.mp h
      exact ⟨none, nofun, found, rest, hhead, h⟩
    | succ d =>
      obtain ⟨⟨found, rest⟩, hhead, h⟩ := bind_eq_ok_iff.mp h
      exact ⟨some (value d), fun read hread => ⟨d, rfl, (Option.some.inj hread).symm⟩, found, rest, hhead, h⟩
  cases found with
  | null =>
    cases h
    exact .null hhead
  | bool b =>
    cases h
    exact .bool hhead
  | number n =>
    cases h
    exact .number hhead
  | string t =>
    cases h
    exact .string hhead
  | sequence =>
    cases inside with
    | none => cases h
    | some read =>
      obtain ⟨d, hdepth, rfl⟩ := hinside read rfl
      obtain ⟨⟨vs, s₁⟩, hlist, heq⟩ := map_eq_ok_iff.mp h
      cases heq
      exact .array hdepth hhead hlist
  | map =>
    cases inside with
    | none => cases h
    | some read =>
      obtain ⟨d, hdepth, rfl⟩ := hinside read rfl
      obtain ⟨⟨ms, s₁⟩, hobject, heq⟩ := map_eq_ok_iff.mp h
      cases heq
      exact .object hdepth hhead hobject

theorem exists_head_of_value (h : value depth s = .ok (v, s')) : ∃ r, head s = .ok r := by
  cases opened_of_value h <;> exact ⟨_, ‹_›⟩

theorem items_agree {α : Type} {item : Reader α} {vs : List Json} {as : List α}
    (hread : List.Forall₂ (ReadsAs item) vs as) (h : items (value depth) first fuel s = .ok (vs, s')) :
    items item first fuel s = .ok (as, s') := by
  induction fuel generalizing first s vs as with
  | zero => cases h
  | succ fuel ih =>
    obtain ⟨⟨more, s₁⟩, hmore, h⟩ := bind_eq_ok_iff.mp h
    refine bind_eq_ok_iff.mpr ⟨(more, s₁), hmore, ?_⟩
    cases more with
    | false =>
      cases h
      cases hread
      rfl
    | true =>
      obtain ⟨⟨v, s₂⟩, hv, h⟩ := bind_eq_ok_iff.mp h
      obtain ⟨⟨vs', s₃⟩, hvs, h⟩ := bind_eq_ok_iff.mp h
      cases h
      cases hread with
      | cons hfirst hrest =>
        exact bind_eq_ok_iff.mpr ⟨_, hfirst hv, bind_eq_ok_iff.mpr ⟨_, ih hrest hvs, rfl⟩⟩

theorem listFrom_agrees {α : Type} {item : Reader α} {vs : List Json} {as : List α}
    (hread : List.Forall₂ (ReadsAs item) vs as) (h : listFrom (value depth) s = .ok (vs, s')) :
    listFrom item s = .ok (as, s') := by
  obtain ⟨⟨vs', s₁⟩, hitems, h⟩ := bind_eq_ok_iff.mp h
  obtain ⟨s₂, hclose, h⟩ := bind_eq_ok_iff.mp h
  cases h
  exact bind_eq_ok_iff.mpr ⟨_, items_agree hread hitems, bind_eq_ok_iff.mpr ⟨_, hclose, rfl⟩⟩

theorem members_agree {item : Reader Json} {ms : List (String × Json)} (hread : ∀ p ∈ ms, ReadsAs item p.2 p.2)
    (h : members (value depth) first fuel s = .ok (ms, s')) : members item first fuel s = .ok (ms, s') := by
  induction fuel generalizing first s ms with
  | zero => cases h
  | succ fuel ih =>
    obtain ⟨⟨more, s₁⟩, hmore, h⟩ := bind_eq_ok_iff.mp h
    refine bind_eq_ok_iff.mpr ⟨(more, s₁), hmore, ?_⟩
    cases more with
    | false =>
      cases h
      rfl
    | true =>
      obtain ⟨⟨name, s₂⟩, hname, h⟩ := bind_eq_ok_iff.mp h
      obtain ⟨s₃, hcolon, h⟩ := bind_eq_ok_iff.mp h
      obtain ⟨⟨v, s₄⟩, hv, h⟩ := bind_eq_ok_iff.mp h
      obtain ⟨⟨ms', s₅⟩, hms, h⟩ := bind_eq_ok_iff.mp h
      cases h
      have hfirst := hread _ List.mem_cons_self hv
      have hrest := ih (fun p hp => hread p (List.mem_cons_of_mem _ hp)) hms
      exact bind_eq_ok_iff.mpr ⟨_, hname, bind_eq_ok_iff.mpr ⟨_, hcolon, bind_eq_ok_iff.mpr ⟨_, hfirst,
        bind_eq_ok_iff.mpr ⟨_, hrest, rfl⟩⟩⟩⟩

theorem objectFrom_agrees {item : Reader Json} {ms : List (String × Json)}
    (hread : ∀ p ∈ ms, ReadsAs item p.2 p.2) (h : objectFrom (value depth) s = .ok (ms, s')) :
    objectFrom item s = .ok (ms, s') := by
  obtain ⟨⟨ms', s₁⟩, hmembers, h⟩ := bind_eq_ok_iff.mp h
  obtain ⟨s₂, hclose, h⟩ := bind_eq_ok_iff.mp h
  cases h
  exact bind_eq_ok_iff.mpr ⟨_, members_agree hread hmembers, bind_eq_ok_iff.mpr ⟨_, hclose, rfl⟩⟩

theorem value_of_head {found : Found} (hhead : head s = .ok (found, s'))
    (hscalar : ∀ inside, afterHead inside found s' = .ok (v, s')) (depth : Nat) : value depth s = .ok (v, s') := by
  cases depth with
  | zero => exact bind_eq_ok_iff.mpr ⟨_, hhead, hscalar none⟩
  | succ depth => exact bind_eq_ok_iff.mpr ⟨_, hhead, hscalar (some (value depth))⟩

mutual

theorem value_readsAs : (v : Json) → {d : Nat} → v.nesting ≤ d → ReadsAs (value d) v v
  | .null, d, _ => fun _ _ _ h => by
    cases opened_of_value h with
    | null hhead => exact value_of_head hhead (fun _ => rfl) d
  | .bool b, d, _ => fun _ _ _ h => by
    cases opened_of_value h with
    | bool hhead => exact value_of_head hhead (fun _ => rfl) d
  | .number n, d, _ => fun _ _ _ h => by
    cases opened_of_value h with
    | number hhead => exact value_of_head hhead (fun _ => rfl) d
  | .string t, d, _ => fun _ _ _ h => by
    cases opened_of_value h with
    | string hhead => exact value_of_head hhead (fun _ => rfl) d
  | .array vs, 0, hd => by
    simp [nesting] at hd
  | .array vs, d + 1, hd => fun _ _ _ h => by
    cases opened_of_value h with
    | array _ hhead hlist =>
      have hitems := List.forall₂_same.mpr (items_readAs vs (Nat.le_of_succ_le_succ hd))
      exact bind_eq_ok_iff.mpr ⟨_, hhead, map_eq_ok_iff.mpr ⟨_, listFrom_agrees hitems hlist, rfl⟩⟩
  | .object ms, 0, hd => by
    simp [nesting] at hd
  | .object ms, d + 1, hd => fun _ _ _ h => by
    cases opened_of_value h with
    | object _ hhead hobject =>
      have hmembers := members_readAs ms (Nat.le_of_succ_le_succ hd)
      exact bind_eq_ok_iff.mpr ⟨_, hhead, map_eq_ok_iff.mpr ⟨_, objectFrom_agrees hmembers hobject, rfl⟩⟩

theorem items_readAs : (vs : List Json) → {d : Nat} → itemsNesting vs ≤ d → ∀ v ∈ vs, ReadsAs (value d) v v
  | [], _, _ => fun v hv => by cases hv
  | v :: vs, d, hd => by
    intro w hw
    have hfirst : v.nesting ≤ d := Nat.le_trans (Nat.le_max_left _ _) hd
    have hrest : itemsNesting vs ≤ d := Nat.le_trans (Nat.le_max_right _ _) hd
    rcases List.mem_cons.mp hw with heq | hw
    · rw [heq]
      exact value_readsAs v hfirst
    · exact items_readAs vs hrest w hw

theorem members_readAs : (ms : List (String × Json)) → {d : Nat} → membersNesting ms ≤ d →
    ∀ p ∈ ms, ReadsAs (value d) p.2 p.2
  | [], _, _ => fun p hp => by cases hp
  | (name, v) :: ms, d, hd => by
    intro p hp
    have hfirst : v.nesting ≤ d := Nat.le_trans (Nat.le_max_left _ _) hd
    have hrest : membersNesting ms ≤ d := Nat.le_trans (Nat.le_max_right _ _) hd
    rcases List.mem_cons.mp hp with heq | hp
    · rw [heq]
      exact value_readsAs v hfirst
    · exact members_readAs ms hrest p hp

end

theorem text_readsAs (t : String) : ReadsAs text (.string t) t := by
  intro depth s s' h
  cases opened_of_value h with
  | string hhead => exact bind_eq_ok_iff.mpr ⟨_, hhead, rfl⟩

theorem natural_readsAs (expected : String) (n : UInt64) : ReadsAs (natural expected) (.ofUInt64 n) n := by
  intro depth s s' h
  cases opened_of_value h with
  | number hhead =>
    refine bind_eq_ok_iff.mpr ⟨_, hhead, ?_⟩
    simp

theorem string_of_head {t : String} (h : head s = .ok (.string t, s')) :
    ∃ rest, skipBlanks s = '"'.toUInt8 :: rest ∧ string rest = .ok (t, s') := by
  rw [head] at h
  split at h
  · cases h
  rename_i b rest hs
  iterate 5
    split at h
    · obtain ⟨_, -, heq⟩ := map_eq_ok_iff.mp h
      cases heq
  split at h
  · rename_i hquote
    obtain ⟨_, hstring, heq⟩ := map_eq_ok_iff.mp h
    cases heq
    exact ⟨rest, by rw [hs, hquote], hstring⟩
  split at h
  · cases h
  split at h <;> cases h

theorem variant_readsAs {α : Type} {known : List (String × α)} {name : String} {a : α}
    (hknown : known.lookup name = some a) (depth : Nat) : ReadsAs (variant known depth) (.string name) a := by
  intro depth s s' h
  cases opened_of_value h with
  | string hhead =>
    obtain ⟨rest, hquote, hstring⟩ := string_of_head hhead
    rw [variant, hquote]
    refine bind_eq_ok_iff.mpr ⟨_, hstring, ?_⟩
    simp only [hknown]

theorem list_readsAs {α : Type} {item : Nat → Reader α} {d : Nat} {vs : List Json} {as : List α}
    (h : List.Forall₂ (ReadsAs (item d)) vs as) : ReadsAs (list item (d + 1)) (.array vs) as := by
  intro depth s s' hvalue
  cases opened_of_value hvalue with
  | array _ hhead hlist => exact bind_eq_ok_iff.mpr ⟨_, hhead, listFrom_agrees h hlist⟩

theorem payload_readsAs {v : Json} {p : Payload} (hv : Payload.ofJson? v = some p) {d : Nat} (hd : v.nesting ≤ d) :
    ReadsAs (payload d) v p := by
  cases v with
  | object ms =>
    cases d with
    | zero => simp [nesting] at hd
    | succ d =>
      intro depth s s' h
      cases hv
      cases opened_of_value h with
      | object _ hhead hobject =>
        have hmembers := members_readAs ms (Nat.le_of_succ_le_succ hd)
        exact bind_eq_ok_iff.mpr ⟨_, hhead, bind_eq_ok_iff.mpr ⟨_, objectFrom_agrees hmembers hobject, rfl⟩⟩
  | null | bool _ | number _ | string _ | array _ => cases hv

theorem document_eq_ok_iff {α : Type} {read : Reader α} {body : List UInt8} {a : α} :
    document read body = .ok a ↔ ∃ s, read body = .ok (a, s) ∧ skipBlanks s = [] := by
  rw [document, bind_eq_ok_iff]
  constructor
  · rintro ⟨⟨a', s⟩, hread, hend⟩
    simp only at hend
    split at hend
    · rename_i hblank
      cases hend
      exact ⟨s, hread, hblank⟩
    · cases hend
  · rintro ⟨s, hread, hblank⟩
    exact ⟨_, hread, by simp only [hblank]⟩

end GatedStore.Json.Reader
