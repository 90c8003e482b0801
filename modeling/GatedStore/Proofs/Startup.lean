import GatedStore.Proofs.BasePaths
import GatedStore.Proofs.ServiceSteps

/-! What comes of starting a service. The settings are looked at first, then the routes are built. That the stores
cannot let so many requests wait shows last, and the check of the settings does not foresee it. -/

namespace GatedStore

namespace Settings

def Broken (s : Settings) : Prop :=
  s.channelCapacity = 0 ∨ s.basePath ≠ "" ∧ s.basePath.toList.head? ≠ some '/'

inductive Breaks (s : Settings) : Invalid → Prop
  | noCapacity (h : s.channelCapacity = 0) : s.Breaks .noCapacity
  | relativeBasePath (hcapacity : s.channelCapacity ≠ 0) (hne : s.basePath ≠ "")
      (hslash : s.basePath.toList.head? ≠ some '/') : s.Breaks (.relativeBasePath s.basePath)

variable {s : Settings}

theorem validate_eq_error_iff {reason : Invalid} : s.validate = .error reason ↔ s.Breaks reason := by
  constructor
  · intro h
    rw [validate] at h
    split at h
    · rename_i hcapacity
      obtain rfl := Except.error.inj h
      exact .noCapacity hcapacity
    · rename_i hcapacity
      split at h
      · cases h
      · rename_i c cs hpath
        split at h
        · cases h
        · rename_i hslash
          obtain rfl := Except.error.inj h
          refine .relativeBasePath hcapacity ?_ ?_
          · intro hempty
            rw [hempty] at hpath
            cases hpath
          · rw [hpath]
            simpa using hslash
  · intro h
    cases h with
    | noCapacity h => rw [validate, if_pos h]
    | relativeBasePath hcapacity hne hslash =>
      rw [validate, if_neg hcapacity]
      cases hpath : s.basePath.toList with
      | nil => exact absurd (String.toList_eq_nil_iff.mp hpath) hne
      | cons c cs =>
        rw [hpath] at hslash
        exact if_neg (by simpa using hslash)

theorem exists_breaks_iff : (∃ reason, s.Breaks reason) ↔ s.Broken := by
  constructor
  · rintro ⟨_, h | ⟨-, hne, hslash⟩⟩
    · exact Or.inl h
    · exact Or.inr ⟨hne, hslash⟩
  · rintro (h | ⟨hne, hslash⟩)
    · exact ⟨_, .noCapacity h⟩
    · by_cases hcapacity : s.channelCapacity = 0
      · exact ⟨_, .noCapacity hcapacity⟩
      · exact ⟨_, .relativeBasePath hcapacity hne hslash⟩

theorem validate_eq_ok_iff : s.validate = .ok () ↔ ¬ s.Broken := by
  rw [← exists_breaks_iff]
  simp only [← validate_eq_error_iff]
  cases s.validate with
  | error reason => exact iff_of_false nofun fun h => h ⟨reason, rfl⟩
  | ok u => exact iff_of_true rfl nofun

end Settings

namespace Service

variable {settings : Settings} {policy : Policy}

inductive Starts (settings : Settings) (policy : Policy) : Startup → Prop
  | refused {reason : Settings.Invalid} (h : settings.Breaks reason) :
      Starts settings policy (.error (.settings reason))
  | unroutable {e : RouteError} (hfits : ¬ settings.Broken)
      (hroutes : Endpoint.routesUnder settings.basePath = .error e) : Starts settings policy (.error (.routes e))
  | oversized {routes : RouteTable Endpoint} (hfits : ¬ settings.Broken)
      (hroutes : Endpoint.routesUnder settings.basePath = .ok routes)
      (hcapacity : 2 ^ 61 ≤ settings.channelCapacity.toNat) : Starts settings policy .panicked
  | started {routes : RouteTable Endpoint} (hfits : ¬ settings.Broken)
      (hroutes : Endpoint.routesUnder settings.basePath = .ok routes)
      (hcapacity : settings.channelCapacity.toNat < 2 ^ 61) :
      Starts settings policy (.ok (running routes policy Store.ofKind))

theorem capacityLimit_lt_iff {capacity : UInt64} : capacityLimit < capacity ↔ 2 ^ 61 ≤ capacity.toNat := by
  have hlimit : capacityLimit.toNat = 2 ^ 61 - 1 := rfl
  rw [UInt64.lt_iff_toNat_lt, hlimit]
  omega

theorem exists_starts (settings : Settings) (policy : Policy) : ∃ r, Starts settings policy r := by
  by_cases hbroken : settings.Broken
  · obtain ⟨reason, h⟩ := Settings.exists_breaks_iff.mpr hbroken
    exact ⟨_, .refused h⟩
  · cases hroutes : Endpoint.routesUnder settings.basePath with
    | error e => exact ⟨_, .unroutable hbroken hroutes⟩
    | ok routes =>
      rcases Nat.lt_or_ge settings.channelCapacity.toNat (2 ^ 61) with hcapacity | hcapacity
      · exact ⟨_, .started hbroken hroutes hcapacity⟩
      · exact ⟨_, .oversized hbroken hroutes hcapacity⟩

theorem Starts.start_eq {r : Startup} (h : Starts settings policy r) : start settings policy = r := by
  cases h with
  | refused h => rw [start, Settings.validate_eq_error_iff.mpr h]
  | unroutable hfits hroutes => rw [start, Settings.validate_eq_ok_iff.mpr hfits, hroutes]
  | oversized hfits hroutes hcapacity =>
    rw [start, Settings.validate_eq_ok_iff.mpr hfits, hroutes]
    exact if_pos (capacityLimit_lt_iff.mpr hcapacity)
  | started hfits hroutes hcapacity =>
    have hroom : ¬ capacityLimit < settings.channelCapacity := by
      rw [capacityLimit_lt_iff]
      omega
    exact start_eq_ok_iff.mpr ⟨Settings.validate_eq_ok_iff.mpr hfits, hroom, _, hroutes, rfl⟩

theorem start_eq_iff {r : Startup} : start settings policy = r ↔ Starts settings policy r := by
  constructor
  · rintro rfl
    obtain ⟨r, hr⟩ := exists_starts settings policy
    exact hr.start_eq ▸ hr
  · exact Starts.start_eq

/-- How every start ends. Settings that are not broken can still ask for more room than there is, and then the start
panics. -/
theorem start_outcomes (settings : Settings) (policy : Policy) :
    ((∃ reason, start settings policy = .error (.settings reason)) ↔ settings.Broken) ∧
    (∀ e, start settings policy = .error (.routes e) ↔
      ¬ settings.Broken ∧ Endpoint.routesUnder settings.basePath = .error e) ∧
    (start settings policy = .panicked ↔
      ¬ settings.Broken ∧ (∃ routes, Endpoint.routesUnder settings.basePath = .ok routes) ∧
        2 ^ 61 ≤ settings.channelCapacity.toNat) ∧
    ∀ s, start settings policy = .ok s ↔
      ¬ settings.Broken ∧ settings.channelCapacity.toNat < 2 ^ 61 ∧
        Endpoint.routesUnder settings.basePath = .ok s.routes ∧
          ∀ kind, s.stations kind = some ⟨policy, Line.new kind⟩ := by
  simp only [start_eq_iff]
  refine ⟨?_, fun e => ?_, ?_, fun s => ?_⟩
  · rw [← Settings.exists_breaks_iff]
    constructor
    · rintro ⟨reason, h⟩
      cases h with
      | refused h => exact ⟨reason, h⟩
    · rintro ⟨reason, h⟩
      exact ⟨reason, .refused h⟩
  · constructor
    · intro h
      cases h with
      | unroutable hfits hroutes => exact ⟨hfits, hroutes⟩
    · exact fun h => .unroutable h.1 h.2
  · constructor
    · intro h
      cases h with
      | oversized hfits hroutes hcapacity => exact ⟨hfits, ⟨_, hroutes⟩, hcapacity⟩
    · rintro ⟨hfits, ⟨routes, hroutes⟩, hcapacity⟩
      exact .oversized hfits hroutes hcapacity
  · constructor
    · intro h
      cases h with
      | started hfits hroutes hcapacity => exact ⟨hfits, hcapacity, hroutes, fun _ => rfl⟩
    · rintro ⟨hfits, hcapacity, hroutes, hstations⟩
      have hs : s = running s.routes policy Store.ofKind := congrArg (Service.mk s.routes) (funext hstations)
      rw [hs]
      exact .started hfits hroutes hcapacity

theorem start_oversized :
    let settings : Settings := ⟨"", 0x2000000000000000, "info"⟩
    ¬ settings.Broken ∧ (∃ routes, Endpoint.routesUnder settings.basePath = .ok routes) ∧
      start settings .byGrants = .panicked := by
  have hbase : BasePath "" [] := ⟨.nil, List.nodup_nil, List.not_mem_nil⟩
  obtain ⟨routes, hroutes⟩ := Endpoint.exists_routesUnder_iff.mpr ⟨_, hbase⟩
  have hfits : ¬ Settings.Broken ⟨"", 0x2000000000000000, "info"⟩ := Settings.validate_eq_ok_iff.mp rfl
  exact ⟨hfits, ⟨routes, hroutes⟩, Starts.start_eq (.oversized hfits hroutes (by decide))⟩

end Service

end GatedStore
