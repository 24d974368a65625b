import PersonGate.Http.Address
/-!
# Addresses of a whole site

A site is what an address names without a path: a scheme and an authority, and nothing behind them.
The address of a site and the address of a path below it lead to the same origin (`parse?_text`).
-/
namespace PersonGate.Http

/-- Does the character stand for itself in an address, and not end an authority? -/
def isPlain (c : Char) : Bool :=
  !(Address.isSlash c || c == '?' || c == '#') && 0x20 < c.toNat

theorem visible_of_isPlain {c : Char} (h : isPlain c = true) : 0x20 < c.toNat := by
  rw [isPlain, Bool.and_eq_true, decide_eq_true_eq] at h
  exact h.2

/-- A scheme and an authority that names an origin. -/
structure Site where
  secure : Bool
  authority : Text
  origin : Origin
  plain : authority.all isPlain = true
  names : Origin.ofAuthority? secure authority = some origin

namespace Site

/-- The address of the site, without a path. -/
def text (site : Site) : Text := Origin.scheme site.secure ++ [':', '/', '/'] ++ site.authority

/-! ## Reading the parts -/

theorem tidy_eq_self {t : Text} (h : ∀ c ∈ t, 0x20 < c.toNat) : Address.tidy t = t := by
  have hedge : ∀ c ∈ t, Address.isEdge c = false := by
    intro c hc
    have := h c hc
    simp [Address.isEdge]
    omega
  have hstart : t.dropWhile Address.isEdge = t := by
    cases t with
    | nil => rfl
    | cons c rest => exact List.dropWhile_cons_of_neg (by simp [hedge c (by simp)])
  have hend : Text.dropEnd Address.isEdge t = t :=
    Text.dropEnd_eq_self _ t fun c hc => hedge c (List.mem_of_getLast? hc)
  rw [Address.tidy, hstart, hend, List.filter_eq_self]
  intro c hc
  have hlt := h c hc
  have hne : ∀ d : Char, d.toNat ≤ 0x20 → (c == d) = false := by
    intro d hd
    rw [beq_eq_false_iff_ne]
    rintro rfl
    omega
  rw [Address.isIgnored, hne '\t' (by decide), hne '\n' (by decide), hne '\r' (by decide)]
  rfl

theorem cut?_scheme (secure : Bool) (rest : Text) :
    Text.cut? ':' (Origin.scheme secure ++ ':' :: rest) = some (Origin.scheme secure, rest) := by
  rw [Text.cut?_eq_some_iff]
  cases secure <;> exact ⟨by decide, rfl⟩

theorem secure?_scheme (secure : Bool) :
    Address.secure? (Origin.scheme secure) = some secure := by
  cases secure <;> decide

/-- No origin has an empty authority. -/
theorem authority_ne_nil (site : Site) : site.authority ≠ [] := by
  intro hnil
  have hnames := site.names
  rw [hnil] at hnames
  cases site.secure <;> simp [Origin.ofAuthority?, Origin.cutHost?, Text.upTo] at hnames

theorem dropWhile_slashes (site : Site) (rest : Text) :
    ('/' :: '/' :: (site.authority ++ rest)).dropWhile Address.isSlash = site.authority ++ rest := by
  have hplain := List.all_eq_true.1 site.plain
  cases ha : site.authority with
  | nil => exact absurd ha site.authority_ne_nil
  | cons c more =>
    have hc : Address.isSlash c = false := by
      have := hplain c (by simp [ha])
      simp only [isPlain, Bool.and_eq_true, Bool.not_eq_true', Bool.or_eq_false_iff] at this
      exact this.1.1.1
    rw [List.dropWhile_cons_of_pos (by decide), List.dropWhile_cons_of_pos (by decide),
      List.cons_append, List.dropWhile_cons_of_neg (by simp [hc])]

/-- The authority ends where a path starts or the text does. -/
theorem upTo_authority (site : Site) {rest : Text} (hrest : rest = [] ∨ ∃ more, rest = '/' :: more) :
    Text.upTo (fun c => Address.isSlash c || c == '?' || c == '#') (site.authority ++ rest) =
      (site.authority, rest) := by
  have hstay : ∀ c ∈ site.authority, (Address.isSlash c || c == '?' || c == '#') = false := by
    intro c hc
    have := List.all_eq_true.1 site.plain c hc
    rw [isPlain, Bool.and_eq_true, Bool.not_eq_true'] at this
    exact this.1
  rcases hrest with rfl | ⟨more, rfl⟩
  · rw [List.append_nil, Text.upTo_eq_self hstay]
  · exact Text.upTo_eq hstay (by decide) more

/-- An address of the site leads to the site's origin. -/
theorem parse?_text (site : Site) {path : Text} (hpath : path = [] ∨ ∃ more, path = '/' :: more)
    (hplain : path.all (fun c => isPlain c || c == '/') = true) :
    Address.parse? (site.text ++ path) =
      some ⟨site.origin, Address.normalPath path, none⟩ := by
  have hshape : site.text ++ path =
      Origin.scheme site.secure ++ ':' :: '/' :: '/' :: (site.authority ++ path) := by
    simp [text]
  have hchar : ∀ c ∈ path, isPlain c = true ∨ c = '/' := by simpa using hplain
  have hscheme : (Origin.scheme site.secure ++ [':', '/', '/']).all (fun c => 0x20 < c.toNat) =
      true := by cases site.secure <;> decide
  have hvisible : ∀ c ∈ site.text ++ path, 0x20 < c.toNat := by
    intro c hc
    rcases List.mem_append.1 hc with hc | hc
    · rcases List.mem_append.1 hc with hc | hc
      · simpa using List.all_eq_true.1 hscheme c hc
      · exact visible_of_isPlain (List.all_eq_true.1 site.plain c hc)
    · rcases hchar c hc with h | rfl
      · exact visible_of_isPlain h
      · decide
  have hquery : Text.upTo (fun c => c == '?' || c == '#') path = (path, []) := by
    refine Text.upTo_eq_self fun c hc => ?_
    rcases hchar c hc with h | rfl
    · simp only [isPlain, Bool.and_eq_true, Bool.not_eq_true', Bool.or_eq_false_iff] at h
      rw [h.1.1.2, h.1.2]
      rfl
    · rfl
  rw [Address.parse?, tidy_eq_self hvisible, hshape, cut?_scheme]
  simp only [Option.bind_eq_bind, Option.bind_some, secure?_scheme, dropWhile_slashes,
    upTo_authority site hpath, site.names, hquery]
  rfl

end Site
end PersonGate.Http
