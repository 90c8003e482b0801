import GatedStore.Proofs.PathSpellings
import GatedStore.Proofs.PatternFilling
import GatedStore.Proofs.PatternPrinting
import GatedStore.Proofs.Resolution

namespace GatedStore

namespace Pattern

variable {base text rest : String} {p : Pattern}

theorem join_congr {base' text' : String} (hbase : Path.Reslashed base base') (htext : Path.Reslashed text text') :
    join base' text' = join base text := by
  apply parse_congr
  rw [parts_joinText, parts_joinText, hbase.parts_eq, htext.parts_eq]

@[simp] theorem read_text (p : Pattern) : read p.text = .ok p :=
  read_eq_ok_iff.mpr p.parse_text

theorem readUnder_eq_ok_iff : readUnder base text = .ok p ↔ join base text = .ok p :=
  read_eq_ok_iff

theorem join_text_left_iff {q : Pattern} :
    join q.text rest = .ok p ↔ ∃ c, parse rest = .ok c ∧ p.segments = q.segments ++ c.segments := by
  simp [join, join_eq_ok_iff]

theorem join_text_right_iff {q : Pattern} :
    join base q.text = .ok p ↔ ∃ a, parse base = .ok a ∧ p.segments = a.segments ++ q.segments := by
  simp [join, join_eq_ok_iff]

def ThreeParts (base text rest : String) (p : Pattern) : Prop :=
  ∃ a b c, parse base = .ok a ∧ parse text = .ok b ∧ parse rest = .ok c ∧
    p.segments = a.segments ++ b.segments ++ c.segments

theorem threeParts_iff_left :
    (∃ q, join base text = .ok q ∧ join q.text rest = .ok p) ↔ ThreeParts base text rest p := by
  simp only [join_text_left_iff]
  constructor
  · rintro ⟨q, hq, c, hc, hp⟩
    obtain ⟨a, b, ha, hb, hab⟩ := join_eq_ok_iff.mp hq
    exact ⟨a, b, c, ha, hb, hc, by rw [hp, hab]⟩
  · rintro ⟨a, b, c, ha, hb, hc, hp⟩
    have hfirst : (a.segments ++ b.segments).Sublist p.segments := hp ▸ List.sublist_append_left _ _
    exact ⟨p.take _ hfirst, join_eq_ok_iff.mpr ⟨a, b, ha, hb, rfl⟩, c, hc, hp⟩

theorem threeParts_iff_right :
    (∃ q, join text rest = .ok q ∧ join base q.text = .ok p) ↔ ThreeParts base text rest p := by
  simp only [join_text_right_iff]
  constructor
  · rintro ⟨q, hq, a, ha, hp⟩
    obtain ⟨b, c, hb, hc, hbc⟩ := join_eq_ok_iff.mp hq
    exact ⟨a, b, c, ha, hb, hc, by rw [hp, hbc, List.append_assoc]⟩
  · rintro ⟨a, b, c, ha, hb, hc, hp⟩
    rw [List.append_assoc] at hp
    have hlast : (b.segments ++ c.segments).Sublist p.segments := hp ▸ List.sublist_append_right _ _
    exact ⟨p.take _ hlast, join_eq_ok_iff.mpr ⟨b, c, hb, hc, rfl⟩, a, ha, hp⟩

structure Joinable (base text : String) (a b : Pattern) : Prop where
  base_eq : read base = .ok a
  text_eq : read text = .ok b
  disjoint : ∀ name ∈ a.names, name ∉ b.names

theorem exists_readUnder_iff : (∃ p, readUnder base text = .ok p) ↔ ∃ a b, Joinable base text a b := by
  simp only [readUnder_eq_ok_iff]
  constructor
  · rintro ⟨p, hp⟩
    obtain ⟨a, b, ha, hb, -⟩ := join_eq_ok_iff.mp hp
    have hdisjoint := (exists_join_iff ha hb).mp ⟨p, hp⟩
    exact ⟨a, b, read_eq_ok_iff.mpr ha, read_eq_ok_iff.mpr hb, fun _ hname hname' => hdisjoint hname hname'⟩
  · rintro ⟨a, b, h⟩
    exact (exists_join_iff (read_eq_ok_iff.mp h.base_eq) (read_eq_ok_iff.mp h.text_eq)).mpr
      fun _ hname hname' => h.disjoint _ hname hname'

theorem Joinable.segments_eq {a b : Pattern} (h : Joinable base text a b) (hp : readUnder base text = .ok p) :
    p.segments = a.segments ++ b.segments := by
  obtain ⟨a', b', ha, hb, hsegments⟩ := join_eq_ok_iff.mp (readUnder_eq_ok_iff.mp hp)
  obtain rfl := Except.ok.inj ((read_eq_ok_iff.mp h.base_eq).symm.trans ha)
  obtain rfl := Except.ok.inj ((read_eq_ok_iff.mp h.text_eq).symm.trans hb)
  exact hsegments

end Pattern

theorem RouteTable.registerUnder_eq {E : Type} (t : RouteTable E) (base text : String) (method : Method)
    (permission : Option Permission) (endpoint : E) :
    t.registerUnder base method text permission endpoint =
      Pattern.readUnder base text >>= fun p => t.register method p.text permission endpoint := by
  rw [registerUnder]
  cases Pattern.readUnder base text with
  | error e => rfl
  | ok p =>
    have hregister : t.register method p.text permission endpoint = t.add ⟨method, p, permission, endpoint⟩ := by
      rw [register, Pattern.read_text]
      rfl
    exact hregister.symm

theorem Pattern.join_concatenates (base text : String) :
    ((∃ p, readUnder base text = .ok p) ↔ ∃ a b, Joinable base text a b) ∧
    (∀ a b p, Joinable base text a b → readUnder base text = .ok p → p.segments = a.segments ++ b.segments) ∧
    ((¬ ∃ a b, Joinable base text a b) →
      ∃ flaw, readUnder base text = .error (.invalidPattern (joinText base text) (Flaw.message flaw))) ∧
    (∀ rest p, (∃ q, readUnder base text = .ok q ∧ readUnder q.text rest = .ok p) ↔
      ∃ q, readUnder text rest = .ok q ∧ readUnder base q.text = .ok p) ∧
    (∀ base' text', Path.Reslashed base base' → Path.Reslashed text text' → join base' text' = join base text) ∧
    ∀ (E : Type) (t : RouteTable E) method permission endpoint,
      t.registerUnder base method text permission endpoint =
        t.register method (base ++ "/" ++ text) permission endpoint ∧
      t.registerUnder base method text permission endpoint =
        readUnder base text >>= fun p => t.register method p.text permission endpoint := by
  refine ⟨exists_readUnder_iff, fun a b p h hp => h.segments_eq hp, fun hnone => ?_, fun rest p => ?_,
    fun base' text' => join_congr, fun E t method permission endpoint => ⟨rfl, t.registerUnder_eq base text ..⟩⟩
  · cases hread : readUnder base text with
    | ok p => exact absurd (exists_readUnder_iff.mp ⟨p, hread⟩) hnone
    | error e =>
      obtain ⟨flaw, rfl⟩ := read_eq_error hread
      exact ⟨flaw, rfl⟩
  · simp only [readUnder_eq_ok_iff]
    rw [threeParts_iff_left, threeParts_iff_right]

theorem Pattern.join_refuses_shared_name :
    (∃ a b p, Joinable "/\x7borg\x7d/" "orders//\x7bid\x7d" a b ∧
      readUnder "/\x7borg\x7d/" "orders//\x7bid\x7d" = .ok p ∧ p.segments = a.segments ++ b.segments) ∧
    ∃ flaw, readUnder "/\x7bid\x7d" "orders/\x7bid\x7d" =
      .error (.invalidPattern "/\x7bid\x7d/orders/\x7bid\x7d" (Flaw.message flaw)) := by
  constructor
  · obtain ⟨hexists, hsegments, -⟩ := join_concatenates "/\x7borg\x7d/" "orders//\x7bid\x7d"
    have hread : (readUnder "/\x7borg\x7d/" "orders//\x7bid\x7d").toOption.isSome = true := by decide
    obtain ⟨p, hp⟩ := Results.toOption_isSome_iff.mp hread
    obtain ⟨a, b, hjoinable⟩ := hexists.mp ⟨p, hp⟩
    exact ⟨a, b, p, hjoinable, hp, hsegments a b p hjoinable hp⟩
  · obtain ⟨hexists, -, hinvalid, -⟩ := join_concatenates "/\x7bid\x7d" "orders/\x7bid\x7d"
    have hread : ¬ (readUnder "/\x7bid\x7d" "orders/\x7bid\x7d").toOption.isSome = true := by decide
    exact hinvalid fun hjoinable => hread (Results.toOption_isSome_iff.mpr (hexists.mpr hjoinable))

end GatedStore
