import PersonGate.Config.Grant
import PersonGate.Proofs.Text.Padded
/-!
# Grants as they are written

`Grant.Writes` says which texts write a list of grants: `token=role|role` for each grant in order,
with commas between, any blanks around entries, tokens and roles, and any blank pieces between the
separators. Reading is the exact inverse of that: a text reads as a list of grants just when it
writes them and they are well formed, which means that no token and no role holds a separator that
would end it or has blanks at its ends (`parse_eq_ok_iff`).

A list with separators is read in the same way at both levels: `Text.Pieces` relates the items to
the pieces between the separators, and `trimmed_split` is what is left of those pieces.
-/
namespace PersonGate

namespace Text

/-! ## Pieces between separators -/

/-- The texts with the separator between each two. -/
def join (sep : Char) (pieces : List Text) : Text := [sep].intercalate pieces

theorem join_cons_cons (sep : Char) (a b : Text) (rest : List Text) :
    join sep (a :: b :: rest) = a ++ sep :: join sep (b :: rest) := by
  simp [join, List.intercalate_cons_cons]

theorem mem_join {sep : Char} {pieces : List Text} {piece : Text} (h : piece ∈ pieces) {c : Char}
    (hc : c ∈ piece) : c ∈ join sep pieces := by
  induction pieces with
  | nil => simp at h
  | cons a rest ih =>
    cases rest with
    | nil =>
      rw [List.mem_singleton.1 h] at hc
      simpa [join] using hc
    | cons b more =>
      rw [join_cons_cons, List.mem_append, List.mem_cons]
      rcases List.mem_cons.1 h with rfl | h
      · exact .inl hc
      · exact .inr (.inr (ih h))

/-- Cutting takes a joined text apart again. -/
theorem split_join {sep : Char} {pieces : List Text} (hne : pieces ≠ [])
    (h : ∀ piece ∈ pieces, sep ∉ piece) : split sep (join sep pieces) = pieces := by
  induction pieces with
  | nil => exact absurd rfl hne
  | cons a rest ih =>
    cases rest with
    | nil => simpa [join] using split_of_not_mem (h a (by simp))
    | cons b more =>
      rw [join_cons_cons, split_append, split_of_not_mem (h a (by simp)),
        ih (by simp) fun piece hp => h piece (List.mem_cons_of_mem a hp)]
      rfl

/-- No character is lost by cutting. -/
theorem join_split (sep : Char) (t : Text) : join sep (split sep t) = t := by
  induction t with
  | nil => rfl
  | cons c rest ih =>
    cases hs : split sep rest with
    | nil => exact absurd hs (split_ne_nil sep rest)
    | cons piece pieces =>
      rw [hs] at ih
      by_cases hc : c = sep
      · rw [split, if_pos hc, hs, join_cons_cons, ih, hc]
        rfl
      · rw [split, if_neg hc, hs]
        cases pieces with
        | nil => simpa [join] using ih
        | cons next more => simpa [join_cons_cons] using ih

/-- Text without a separator at the end belongs to the last piece. -/
theorem split_append_of_not_mem {sep : Char} {b : Text} (hb : sep ∉ b) (t : Text) :
    ∃ before last, split sep t = before ++ [last] ∧ split sep (t ++ b) = before ++ [last ++ b] := by
  induction t with
  | nil => exact ⟨[], [], rfl, by simpa using split_of_not_mem hb⟩
  | cons c rest ih =>
    obtain ⟨before, last, hrest, happend⟩ := ih
    by_cases hc : c = sep
    · exact ⟨[] :: before, last, by simp [split, hc, hrest], by simp [split, hc, happend]⟩
    · cases before with
      | nil => exact ⟨[], c :: last, by simp [split, hc, hrest], by simp [split, hc, happend]⟩
      | cons piece pieces =>
        exact ⟨(c :: piece) :: pieces, last, by simp [split, hc, hrest],
          by simp [split, hc, happend]⟩

/-- What is left of the pieces of a text when blanks do not count. -/
def trimmed (pieces : List Text) : List Text := (pieces.map trim).filter (· ≠ [])

theorem trimmed_split {sep : Char} {pieces : List Text} (h : ∀ piece ∈ pieces, sep ∉ piece) :
    trimmed (split sep (join sep pieces)) = trimmed pieces := by
  cases pieces with
  | nil => rfl
  | cons a rest => rw [split_join (by simp) h]

theorem trimmed_split_append_blank (sep : Char) (hsep : isBlank sep = false) {b : Text}
    (hb : Blank b) (t : Text) : trimmed (split sep (t ++ b)) = trimmed (split sep t) := by
  obtain ⟨before, last, ht, happend⟩ := split_append_of_not_mem (hb.not_mem hsep) t
  simp only [trimmed, ht, happend, List.map_append, List.map_singleton, trim_append_blank hb]

/-- The pieces write the items in order, and blank pieces write nothing. -/
inductive Pieces {α : Type} (writes : α → Text → Prop) : List α → List Text → Prop where
  | nil : Pieces writes [] []
  | blank {items : List α} {piece : Text} {pieces : List Text} (h : Blank piece)
    (rest : Pieces writes items pieces) : Pieces writes items (piece :: pieces)
  | item {a : α} {items : List α} {piece : Text} {pieces : List Text} (h : writes a piece)
    (rest : Pieces writes items pieces) : Pieces writes (a :: items) (piece :: pieces)

/-- Each piece is blank or writes an item. -/
theorem Pieces.mem {α : Type} {writes : α → Text → Prop} {items : List α} {pieces : List Text}
    (h : Pieces writes items pieces) {piece : Text} (hmem : piece ∈ pieces) :
    Blank piece ∨ ∃ a ∈ items, writes a piece := by
  induction h with
  | nil => simp at hmem
  | blank hb _ ih =>
    rcases List.mem_cons.1 hmem with rfl | hmem
    · exact .inl hb
    · exact ih hmem
  | item hw _ ih =>
    rcases List.mem_cons.1 hmem with rfl | hmem
    · exact .inr ⟨_, by simp, hw⟩
    · exact (ih hmem).imp_right fun ⟨a, ha, hwa⟩ => ⟨a, List.mem_cons_of_mem _ ha, hwa⟩

theorem trimmed_cons_blank {piece : Text} (h : Blank piece) (pieces : List Text) :
    trimmed (piece :: pieces) = trimmed pieces := by
  simp [trimmed, trim_of_blank h]

theorem trimmed_cons {piece : Text} (h : trim piece ≠ []) (pieces : List Text) :
    trimmed (piece :: pieces) = trim piece :: trimmed pieces := by
  simp [trimmed, h]

end Text

namespace Grant
open Text

/-! ## What is written -/

/-- No separator ends the text early, and it has no blanks at its ends. -/
structure IsName (separators : List Char) (t : Text) : Prop where
  ne_nil : t ≠ []
  trim_eq : trim t = t
  no_separator : ∀ sep ∈ separators, sep ∉ t

/-- A token holds no comma and no `=`, a role no comma and no bar. -/
structure WellFormed (grant : Grant) : Prop where
  token : IsName [',', '='] grant.token
  roles : ∀ role ∈ grant.roles, IsName [',', '|'] role

/-- The text writes the roles with bars between. -/
def WritesRoles (roles : List Text) (t : Text) : Prop :=
  ∃ pieces, Pieces Padded roles pieces ∧ t = join '|' pieces

/-- The text writes the grant as an entry. -/
def WritesEntry (grant : Grant) (t : Text) : Prop :=
  ∃ token roles, Padded grant.token token ∧ WritesRoles grant.roles roles ∧
    Padded (token ++ '=' :: roles) t

/-- The text writes the grants with commas between. -/
def Writes (grants : List Grant) (t : Text) : Prop :=
  ∃ pieces, Pieces WritesEntry grants pieces ∧ t = join ',' pieces

/-- The grant as an entry without any blanks. -/
def entryText (grant : Grant) : Text := grant.token ++ '=' :: join '|' grant.roles

/-- The grants as a text without any blanks. -/
def listText (grants : List Grant) : Text := join ',' (grants.map entryText)

theorem pieces_map {α : Type} {writes : α → Text → Prop} {text : α → Text}
    (h : ∀ a, writes a (text a)) (items : List α) : Pieces writes items (items.map text) := by
  induction items with
  | nil => exact .nil
  | cons a rest ih => exact .item (h a) ih

theorem writes_listText (grants : List Grant) : Writes grants (listText grants) := by
  refine ⟨_, pieces_map (fun grant => ?_) grants, rfl⟩
  refine ⟨grant.token, join '|' grant.roles, padded_self _, ⟨_, ?_, rfl⟩, padded_self _⟩
  simpa using pieces_map padded_self grant.roles

/-! ## What is written is read -/

theorem trimmed_roles {roles pieces : List Text} (h : Pieces Padded roles pieces)
    (hroles : ∀ role ∈ roles, IsName [',', '|'] role) : trimmed pieces = roles := by
  induction h with
  | nil => rfl
  | blank hb _ ih => rw [trimmed_cons_blank hb, ih hroles]
  | @item role items piece pieces hp _ ih =>
    have hname := hroles role (by simp)
    have htrim : trim piece = role := hp.trim_eq.trans hname.trim_eq
    rw [trimmed_cons (htrim ▸ hname.ne_nil), htrim,
      ih fun other ho => hroles other (List.mem_cons_of_mem _ ho)]

theorem not_mem_padded {core t : Text} (h : Padded core t) {sep : Char}
    (hsep : isBlank sep = false) (hcore : sep ∉ core) : sep ∉ t := by
  obtain ⟨before, after, hb, ha, rfl⟩ := h
  simp [hb.not_mem hsep, ha.not_mem hsep, hcore]

theorem not_mem_join {sep other : Char} (hne : other ≠ sep) {pieces : List Text}
    (h : ∀ piece ∈ pieces, other ∉ piece) : other ∉ join sep pieces := by
  induction pieces with
  | nil => simp [join]
  | cons a rest ih =>
    cases rest with
    | nil => simpa [join] using h a (by simp)
    | cons b more =>
      rw [join_cons_cons, List.mem_append, List.mem_cons, not_or, not_or]
      exact ⟨h a (by simp), hne, ih fun piece hp => h piece (List.mem_cons_of_mem a hp)⟩

/-- Neither a blank piece nor one that writes an item holds what no item holds. -/
theorem not_mem_pieces {roles pieces : List Text} (h : Pieces Padded roles pieces) {sep : Char}
    (hsep : isBlank sep = false) (hroles : ∀ role ∈ roles, sep ∉ role) :
    ∀ piece ∈ pieces, sep ∉ piece := by
  intro piece hmem
  rcases h.mem hmem with hb | ⟨role, hrole, hp⟩
  · exact hb.not_mem hsep
  · exact not_mem_padded hp hsep (hroles role hrole)

theorem parseRoles_eq (t : Text) : parseRoles t = trimmed (split '|' t) := rfl

theorem parseRoles_writes {roles : List Text} {t : Text} (h : WritesRoles roles t)
    (hroles : ∀ role ∈ roles, IsName [',', '|'] role) : parseRoles t = roles := by
  obtain ⟨pieces, hp, rfl⟩ := h
  rw [parseRoles_eq, trimmed_split (not_mem_pieces hp (by decide)
    fun role hrole => (hroles role hrole).no_separator _ (by simp)), trimmed_roles hp hroles]

/-- Blanks that were at the end of an entry are no part of its last role. -/
theorem parseRoles_trimEnd (t : Text) : parseRoles (trimEnd t) = parseRoles t := by
  have hblank : Blank (t.reverse.takeWhile isBlank).reverse := fun c hc =>
    List.all_eq_true.1 List.all_takeWhile c (List.mem_reverse.1 hc)
  have := trimmed_split_append_blank '|' (by decide) hblank (trimEnd t)
  rw [trimEnd, dropEnd_append_takeWhile, ← trimEnd] at this
  exact this.symm

/-- What is cut at the first `=` of an entry. -/
theorem cut?_trim {grant : Grant} (hname : IsName [',', '='] grant.token) {token : Text}
    (htoken : Padded grant.token token) (roles : Text) :
    ∃ key, cut? '=' (trim (token ++ '=' :: roles)) = some (key, trimEnd roles) ∧
      trim key = grant.token := by
  obtain ⟨before, after, hb, ha, rfl⟩ := htoken
  refine ⟨grant.token ++ after, ?_, by rw [trim_append_blank ha, hname.trim_eq]⟩
  have hhead : trimStart (grant.token ++ (after ++ '=' :: roles)) =
      grant.token ++ (after ++ '=' :: roles) := by
    cases ht : grant.token with
    | nil => exact absurd ht hname.ne_nil
    | cons c rest =>
      have hc : isBlank c = false :=
        head_trim grant.token (by rw [hname.trim_eq, ht, List.head?_cons])
      exact List.dropWhile_cons_of_neg (by simp [hc])
  have htrim : trim (before ++ grant.token ++ after ++ '=' :: roles) =
      (grant.token ++ after) ++ '=' :: trimEnd roles := by
    rw [List.append_assoc, List.append_assoc, trim_blank_append hb, trim, hhead,
      ← List.append_assoc, trimEnd, dropEnd_append_cons (by decide), ← trimEnd]
  rw [htrim, cut?_eq_some_iff]
  refine ⟨?_, rfl⟩
  rw [List.mem_append, not_or]
  exact ⟨hname.no_separator _ (by simp), ha.not_mem (by decide)⟩

theorem ofEntry_writes {grant : Grant} {t : Text} (hgrant : grant.WellFormed)
    (h : WritesEntry grant t) : trim t ≠ [] ∧ ofEntry (trim t) = .ok grant := by
  obtain ⟨token, roles, htoken, hroles, hpad⟩ := h
  obtain ⟨key, hcut, hkey⟩ := cut?_trim hgrant.token htoken roles
  rw [hpad.trim_eq]
  refine ⟨fun hnil => by simp [hnil, cut?] at hcut, ?_⟩
  rw [ofEntry, hcut]
  simp only
  rw [hkey, if_neg hgrant.token.ne_nil, parseRoles_trimEnd, parseRoles_writes hroles hgrant.roles]

theorem ofEntries_writes {grants : List Grant} {pieces : List Text}
    (h : Pieces WritesEntry grants pieces) (hgrants : ∀ grant ∈ grants, grant.WellFormed) :
    ofEntries (trimmed pieces) = .ok grants := by
  induction h with
  | nil => rfl
  | blank hb _ ih => rw [trimmed_cons_blank hb, ih hgrants]
  | @item grant items piece pieces hw _ ih =>
    obtain ⟨hne, hentry⟩ := ofEntry_writes (hgrants grant (by simp)) hw
    rw [trimmed_cons hne, ofEntries, hentry,
      ih fun other ho => hgrants other (List.mem_cons_of_mem _ ho)]

theorem comma_not_mem_entry {grant : Grant} (hgrant : grant.WellFormed) {t : Text}
    (h : WritesEntry grant t) : ',' ∉ t := by
  obtain ⟨token, roles, htoken, ⟨pieces, hp, rfl⟩, hpad⟩ := h
  refine not_mem_padded hpad (by decide) ?_
  rw [List.mem_append, List.mem_cons, not_or, not_or]
  refine ⟨not_mem_padded htoken (by decide) (hgrant.token.no_separator _ (by simp)), by decide, ?_⟩
  exact not_mem_join (by decide) (not_mem_pieces hp (by decide)
    fun role hrole => (hgrant.roles role hrole).no_separator _ (by simp))

theorem parse_writes {grants : List Grant} {t : Text} (h : Writes grants t)
    (hgrants : ∀ grant ∈ grants, grant.WellFormed) : parse t = .ok grants := by
  obtain ⟨pieces, hp, rfl⟩ := h
  have hcomma : ∀ piece ∈ pieces, ',' ∉ piece := by
    intro piece hmem
    rcases hp.mem hmem with hb | ⟨grant, hgrant, hw⟩
    · exact hb.not_mem (by decide)
    · exact comma_not_mem_entry (hgrants grant hgrant) hw
  rw [parse, show entries (join ',' pieces) = trimmed (split ',' (join ',' pieces)) from rfl,
    trimmed_split hcomma, ofEntries_writes hp hgrants]

/-! ## What is read was written -/

/-- Every piece is blank or writes its trimmed self, so the pieces write what is left of them. -/
theorem pieces_trimmed (pieces : List Text) : Pieces Padded (trimmed pieces) pieces := by
  induction pieces with
  | nil => exact .nil
  | cons piece rest ih =>
    by_cases hb : trim piece = []
    · have hblank : Blank piece := (trim_eq_nil_iff piece).1 hb
      rw [trimmed_cons_blank hblank]
      exact .blank hblank ih
    · rw [trimmed_cons hb]
      exact .item (padded_trim piece) ih

theorem writesRoles_parseRoles (t : Text) : WritesRoles (parseRoles t) t :=
  ⟨split '|' t, pieces_trimmed _, (join_split '|' t).symm⟩

theorem isName_trim {t : Text} (hne : trim t ≠ []) {separators : List Char}
    (h : ∀ sep ∈ separators, sep ∉ t) : IsName separators (trim t) :=
  ⟨hne, trim_trim t, fun sep hsep hmem => h sep hsep (mem_of_mem_trim hmem)⟩

theorem isName_of_mem_parseRoles {t : Text} (hcomma : ',' ∉ t) {role : Text}
    (h : role ∈ parseRoles t) : IsName [',', '|'] role := by
  obtain ⟨hmem, hne⟩ := List.mem_filter.1 h
  obtain ⟨piece, hpiece, rfl⟩ := List.mem_map.1 hmem
  have hsub : ∀ c ∈ piece, c ∈ t := by
    intro c hc
    rw [← join_split '|' t]
    exact mem_join hpiece hc
  refine isName_trim (by simpa using hne) fun sep hsep hin => ?_
  rcases List.mem_cons.1 hsep with rfl | hsep
  · exact hcomma (hsub _ hin)
  · rw [List.mem_singleton.1 hsep] at hin
    exact not_mem_of_mem_split hpiece hin

theorem of_ofEntry {piece : Text} {grant : Grant} (hcomma : ',' ∉ piece)
    (h : ofEntry (trim piece) = .ok grant) : grant.WellFormed ∧ WritesEntry grant piece := by
  have hcomma' : ',' ∉ trim piece := fun hmem => hcomma (mem_of_mem_trim hmem)
  unfold ofEntry at h
  split at h
  · cases h
  · rename_i token roles hcut
    obtain ⟨hequals, hsplit⟩ := cut?_eq_some_iff.1 hcut
    rw [hsplit, List.mem_append, List.mem_cons, not_or, not_or] at hcomma'
    split at h
    · cases h
    · rename_i hne
      cases h
      refine ⟨⟨isName_trim hne fun sep hsep => ?_, fun role => isName_of_mem_parseRoles hcomma'.2.2⟩,
        token, roles, padded_trim token, writesRoles_parseRoles roles, hsplit ▸ padded_trim piece⟩
      rcases List.mem_cons.1 hsep with rfl | hsep
      · exact hcomma'.1
      · exact List.mem_singleton.1 hsep ▸ hequals

theorem of_ofEntries {pieces : List Text} (hcomma : ∀ piece ∈ pieces, ',' ∉ piece)
    {grants : List Grant} (h : ofEntries (trimmed pieces) = .ok grants) :
    (∀ grant ∈ grants, grant.WellFormed) ∧ Pieces WritesEntry grants pieces := by
  induction pieces generalizing grants with
  | nil =>
    cases h
    exact ⟨by simp, .nil⟩
  | cons piece rest ih =>
    have hrest := fun p hp => hcomma p (List.mem_cons_of_mem piece hp)
    by_cases hb : trim piece = []
    · have hblank : Blank piece := (trim_eq_nil_iff piece).1 hb
      rw [trimmed_cons_blank hblank] at h
      obtain ⟨hgrants, hp⟩ := ih hrest h
      exact ⟨hgrants, .blank hblank hp⟩
    · rw [trimmed_cons hb, ofEntries] at h
      split at h
      · cases h
      · rename_i grant hentry
        split at h
        · cases h
        · rename_i more hmore
          cases h
          obtain ⟨hgrant, hw⟩ := of_ofEntry (hcomma piece (by simp)) hentry
          obtain ⟨hgrants, hp⟩ := ih hrest hmore
          exact ⟨by simpa using ⟨hgrant, hgrants⟩, .item hw hp⟩

/-- **Reading grants is the inverse of writing them.** A text reads as a list of grants just when it
writes them and all of them are well formed; and every list of grants can be written. -/
theorem parse_eq_ok_iff :
    (∀ (t : Text) (grants : List Grant),
      parse t = .ok grants ↔ (∀ grant ∈ grants, grant.WellFormed) ∧ Writes grants t) ∧
    ∀ grants, Writes grants (listText grants) := by
  refine ⟨fun t grants => ⟨fun h => ?_, fun h => parse_writes h.2 h.1⟩, writes_listText⟩
  obtain ⟨hgrants, hp⟩ := of_ofEntries (fun _ => not_mem_of_mem_split) h
  exact ⟨hgrants, split ',' t, hp, (join_split ',' t).symm⟩

/-- Roles may hold `=` and tokens bars, blank pieces vanish, and a grant may be without roles. -/
example : parse " a|b = x=y| |z ,\t, c= ".toList =
    .ok [⟨"a|b".toList, ["x=y".toList, "z".toList]⟩, ⟨['c'], []⟩] := rfl

end Grant
end PersonGate
