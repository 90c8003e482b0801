import GatedStore.Proofs.CatalogReplay
import GatedStore.Proofs.Lowercasing
import GatedStore.Proofs.RouteAddition

/-! Searching the catalog. A search compares texts that were put in lower case apart, and so it finds what stands
verbatim in a row unless a capital sigma at an end of the query takes another form in the row. -/

namespace GatedStore

open Text (trim)
open Text.Lowercase

def CatalogRow.fields (row : CatalogRow) : List String :=
  row.method :: row.path :: row.name :: row.permission.toList

def CatalogRow.Shows (row : CatalogRow) (cs : List Char) : Prop :=
  ∃ field ∈ row.fields, cs <:+: field.toList

namespace RouteTable

variable {E : Type}

theorem occursIn_iff {query cs : List Char} : occursIn query cs = true ↔ query <:+: cs := by
  induction cs with
  | nil => rw [occursIn, List.isEmpty_iff, List.infix_nil]
  | cons c cs ih => rw [occursIn, Bool.or_eq_true, List.isPrefixOf_iff_prefix, ih, List.infix_cons_iff]

theorem rowFound_iff {query : List Char} {row : CatalogRow} :
    rowFound query row = true ↔ ∃ field ∈ row.fields, query <:+: lower field.toList := by
  simp only [rowFound, found, CatalogRow.fields, Bool.or_eq_true, occursIn_iff, Option.any_eq_true, List.mem_cons,
    Option.mem_toList, exists_eq_or_imp]
  tauto

theorem mem_search_iff {nameOf : E → String} {t : RouteTable E} {query : String} {row : CatalogRow} :
    row ∈ t.search nameOf query ↔
      row ∈ t.catalog nameOf ∧ ∃ field ∈ row.fields, lower (trim query.toList) <:+: lower field.toList := by
  simp only [search, List.mem_filter, Bool.or_eq_true, rowFound_iff, List.isEmpty_iff]
  refine and_congr_right fun _ => or_iff_right_of_imp fun hempty => ?_
  exact ⟨row.method, List.mem_cons_self, hempty ▸ List.nil_infix⟩

theorem search_sublist (nameOf : E → String) (t : RouteTable E) (query : String) :
    (t.search nameOf query).Sublist (t.catalog nameOf) :=
  List.filter_sublist

theorem catalog_nodup (nameOf : E → String) (t : RouteTable E) : (t.catalog nameOf).Nodup := by
  refine List.pairwise_map.mpr (t.distinct.imp fun {r r'} hapart hrow => hapart ⟨?_, ?_⟩)
  · have htoken : r.method.token = r'.method.token := congrArg CatalogRow.method hrow
    have hread := r.method.ofString?_token
    rw [htoken, Method.ofString?_token] at hread
    exact (Option.some.inj hread).symm
  · have hsegments := Pattern.text_eq_iff.mp (congrArg CatalogRow.path hrow)
    rw [Pattern.sameShape, hsegments]
    exact Pattern.sameSegments_refl _

theorem mem_search_of_keepsForms {nameOf : E → String} {t : RouteTable E} {query : String} {row : CatalogRow}
    (hrow : row ∈ t.catalog nameOf) {field : String} (hfield : field ∈ row.fields) {u v : List Char}
    (hverbatim : field.toList = u ++ trim query.toList ++ v) (hkeeps : KeepsForms u (trim query.toList) v) :
    row ∈ t.search nameOf query := by
  refine mem_search_iff.mpr ⟨hrow, field, hfield, ?_⟩
  rw [hverbatim, ← lowerWithin_eq_lower_iff.mpr hkeeps]
  exact lowerWithin_infix_lower u _ v

theorem mem_search_of_fixesForms {nameOf : E → String} {t : RouteTable E} {query : String} {row : CatalogRow}
    (hfixes : FixesForms (trim query.toList)) (hrow : row ∈ t.catalog nameOf) (hshows : row.Shows (trim query.toList)) :
    row ∈ t.search nameOf query := by
  obtain ⟨field, hfield, hinside⟩ := hshows
  exact mem_search_iff.mpr ⟨hrow, field, hfield, fixesForms_iff.mp hfixes _ hinside⟩

theorem entered_singleton {reg : Registration E} {r : Route E} (h : reg.Makes r) : (entered [reg]).routes = [r] := by
  obtain ⟨t, hattempt, hroutes⟩ := exists_attempt h (t := empty) fun a ha => absurd ha List.not_mem_nil
  have hentered : entered [reg] = t := enter_of_ok hattempt
  rw [hentered, hroutes]
  rfl

def named (name : String) : Registration String :=
  ⟨none, .get, "/", none, name⟩

theorem catalog_named (name : String) : (entered [named name]).catalog id = [⟨"GET", "/", none, name⟩] := by
  let root : Pattern := ⟨[], by simp, List.nodup_nil⟩
  have hmakes : (named name).Makes ⟨.get, root, none, name⟩ := ⟨root.parse_text, rfl, rfl, rfl⟩
  rw [catalog, entered_singleton hmakes]
  rfl

theorem not_infix_of_sigma {cs text : List Char} (h : 'Σ' ∈ cs) (hsmall : 'σ' ∉ text) (hfinal : 'ς' ∉ text) :
    ¬ lower cs <:+: text := by
  intro hinside
  rcases sigma_mem_lower h with hmem | hmem
  · exact hsmall (hinside.subset hmem)
  · exact hfinal (hinside.subset hmem)

theorem mem_search_named_iff {name query : String} (h : 'Σ' ∈ trim query.toList) :
    ⟨"GET", "/", none, name⟩ ∈ (entered [named name]).search id query ↔
      lower (trim query.toList) <:+: lower name.toList := by
  have hmethod : ¬ lower (trim query.toList) <:+: lower "GET".toList := not_infix_of_sigma h (by decide) (by decide)
  have hpath : ¬ lower (trim query.toList) <:+: lower "/".toList := not_infix_of_sigma h (by decide) (by decide)
  simp only [mem_search_iff, catalog_named, CatalogRow.fields, List.exists_mem_cons_iff, hmethod, hpath]
  simp

def FindsVerbatim (query : String) : Prop :=
  ∀ (E : Type) (nameOf : E → String) (rs : List (Registration E)), ∀ row ∈ (entered rs).catalog nameOf,
    row.Shows (trim query.toList) → row ∈ (entered rs).search nameOf query

theorem findsVerbatim_iff {query : String} : FindsVerbatim query ↔ FixesForms (trim query.toList) := by
  constructor
  · intro hfinds
    by_contra hloose
    obtain ⟨text, hinside, hlost⟩ := exists_lower_not_infix hloose
    have hrow : ⟨"GET", "/", none, String.ofList text⟩ ∈ (entered [named (String.ofList text)]).catalog id := by
      rw [catalog_named]
      exact List.mem_cons_self
    have hshows : CatalogRow.Shows ⟨"GET", "/", none, String.ofList text⟩ (trim query.toList) := by
      refine ⟨String.ofList text, by simp [CatalogRow.fields], ?_⟩
      rwa [String.toList_ofList]
    have hfound := hfinds String id [named (String.ofList text)] _ hrow hshows
    rw [mem_search_named_iff (sigma_mem_of_not_fixesForms hloose), String.toList_ofList] at hfound
    exact hlost hfound
  · exact fun hfixes E nameOf rs row => mem_search_of_fixesForms hfixes

theorem search_verbatim (rs : List (Registration E)) (nameOf : E → String) (query : String) :
    ((entered rs).search nameOf query).Sublist ((entered rs).catalog nameOf) ∧
    ((entered rs).search nameOf query).Nodup ∧
    (∀ row ∈ (entered rs).catalog nameOf, ∀ field ∈ row.fields, ∀ u v,
      field.toList = u ++ trim query.toList ++ v → KeepsForms u (trim query.toList) v →
        row ∈ (entered rs).search nameOf query) ∧
    (FindsVerbatim query ↔ FixesForms (trim query.toList)) := by
  have hsublist := search_sublist nameOf (entered rs) query
  refine ⟨hsublist, hsublist.nodup (catalog_nodup nameOf _), ?_, findsVerbatim_iff⟩
  intro row hrow field hfield u v hverbatim hkeeps
  exact mem_search_of_keepsForms hrow hfield hverbatim hkeeps

theorem search_misses_verbatim :
    let t := entered [⟨none, .get, "/ΚΟΣΜΟΣ", none, "cosmos"⟩]
    let row : CatalogRow := ⟨"GET", "/ΚΟΣΜΟΣ", none, "cosmos"⟩
    row ∈ t.catalog id ∧ row.Shows (trim "ΚΟΣ".toList) ∧ row ∉ t.search id "ΚΟΣ" := by
  refine ⟨by decide +kernel, ⟨"/ΚΟΣΜΟΣ", by decide, by decide +kernel⟩, by decide +kernel⟩

end RouteTable

end GatedStore
