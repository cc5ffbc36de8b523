import Mathlib

/-!
Contract: reading a long list page by page.

A client asks for the entries behind a cursor, and goes on behind the last entry
of every page until one is empty.

Owns: what is behind a cursor, the walk over the pages, that it ends with every
entry of an ascending list read once, and that it can go one way only.

Does not own: how many entries a page has; every page must have room for one.
-/

namespace DemurrageToken.Library.Pages

variable {τ ε : Type}

section Behind

variable (earlier : τ → τ → Prop) [DecidableRel earlier] (token : ε → τ)

/-- The entries behind a cursor; all of them without one. -/
def behind (entries : List ε) : Option τ → List ε
  | none => entries
  | some cursor => entries.filter fun entry => earlier cursor (token entry)

/-- Every entry comes before the next one. -/
def Ascending (entries : List ε) : Prop :=
  entries.Pairwise fun left right => earlier (token left) (token right)

variable {earlier token} {entries : List ε} {cursor : Option τ}

theorem behind_ascending (ascending : Ascending earlier token entries) :
    Ascending earlier token (behind earlier token entries cursor) := by
  cases cursor with
  | none => exact ascending
  | some cursor => exact ascending.filter _

/-- Reading entries in another form does not change which are behind a cursor. -/
theorem behind_map {δ : Type} {entries : List δ} (form : δ → ε) :
    behind earlier token (entries.map form) cursor =
      (behind earlier (token ∘ form) entries cursor).map form := by
  cases cursor with
  | none => rfl
  | some cursor => exact List.filter_map

variable [IsStrictOrder τ earlier]

omit [DecidableRel earlier] in
/-- An ascending list is determined by its entries. -/
theorem Ascending.unique {left right : List ε} (leftAscending : Ascending earlier token left)
    (rightAscending : Ascending earlier token right)
    (same : ∀ entry, entry ∈ left ↔ entry ∈ right) : left = right := by
  have distinct : ∀ {entries : List ε}, Ascending earlier token entries → entries.Nodup := by
    intro entries ascending
    apply List.Pairwise.imp _ ascending
    intro first second before equal
    rw [equal] at before
    exact irrefl_of earlier _ before
  have permuted := (List.perm_ext_iff_of_nodup (distinct leftAscending)
    (distinct rightAscending)).mpr same
  apply permuted.eq_of_pairwise _ leftAscending rightAscending
  intro first second _ _ before after
  exact absurd (trans_of earlier before after) (irrefl_of earlier _)

/-- An ascending list splits at each of its entries. -/
theorem filter_of_split {front rest : List ε} {last : ε}
    (ascending : Ascending earlier token (front ++ last :: rest)) :
    (front ++ last :: rest).filter (fun entry => earlier (token last) (token entry)) = rest := by
  rcases List.pairwise_append.mp ascending with ⟨_, fromLast, beforeLast⟩
  have dropped : front.filter (fun entry => earlier (token last) (token entry)) = [] := by
    apply List.filter_eq_nil_iff.mpr
    intro entry member
    have less := beforeLast entry member last List.mem_cons_self
    simpa using asymm_of earlier less
  have kept : rest.filter (fun entry => earlier (token last) (token entry)) = rest := by
    apply List.filter_eq_self.mpr
    intro entry member
    simpa using (List.pairwise_cons.mp fromLast).1 entry member
  have self : ¬ earlier (token last) (token last) := irrefl_of earlier _
  rw [List.filter_append, dropped, List.nil_append, List.filter_cons_of_neg (by simpa using self),
    kept]

/-- Behind an entry behind a cursor lies what follows it there. -/
theorem behind_of_split (ascending : Ascending earlier token entries) {front rest : List ε}
    {last : ε} (split : behind earlier token entries cursor = front ++ last :: rest) :
    behind earlier token entries (some (token last)) = rest := by
  have narrowed : behind earlier token entries (some (token last)) =
      (behind earlier token entries cursor).filter
        fun entry => earlier (token last) (token entry) := by
    cases cursor with
    | none => rfl
    | some cursor =>
        have member : last ∈ behind earlier token entries (some cursor) := by
          rw [split]
          simp
        have reached : earlier cursor (token last) := by
          simpa using (List.mem_filter.mp member).2
        rw [behind, behind, List.filter_filter]
        apply List.filter_congr
        intro entry _
        by_cases beyond : earlier (token last) (token entry)
        · simp [beyond, trans_of earlier reached beyond]
        · simp [beyond]
  have stillAscending := @behind_ascending _ _ _ _ _ _ cursor ascending
  rw [split] at narrowed stillAscending
  rw [narrowed]
  exact filter_of_split stillAscending

end Behind

/-! ## The walk -/

/-- The pages of a client that goes on behind the last entry of each page until
one is empty. `fetch` says what a request returns: how many there were before
it, the cursor, and the page. -/
inductive Walk (token : ε → τ) (fetch : Nat → Option τ → List ε → Prop) :
    Nat → Option τ → List (List ε) → Prop where
  | finished {request : Nat} {cursor : Option τ} (empty : fetch request cursor []) :
      Walk token fetch request cursor []
  | turned {request : Nat} {cursor : Option τ} {page : List ε} {last : ε}
      {pages : List (List ε)} (fetched : fetch request cursor page)
      (ends : page.getLast? = some last)
      (onwards : Walk token fetch (request + 1) (some (token last)) pages) :
      Walk token fetch request cursor (page :: pages)

variable {token : ε → τ} {fetch : Nat → Option τ → List ε → Prop}

/-- Every page of a walk was the answer to a request. -/
theorem Walk.fetched {request : Nat} {cursor : Option τ} {pages : List (List ε)}
    (walk : Walk token fetch request cursor pages) :
    ∀ page ∈ pages, ∃ request cursor, fetch request cursor page := by
  induction walk with
  | finished _ =>
      intro page member
      cases member
  | turned fetched _ _ inductionHypothesis =>
      intro page member
      rcases List.mem_cons.mp member with rfl | later
      · exact ⟨_, _, fetched⟩
      · exact inductionHypothesis page later

/-- Where a request has one answer, there is one walk. -/
theorem Walk.unique
    (determined : ∀ {request cursor page other},
      fetch request cursor page → fetch request cursor other → page = other)
    {request : Nat} {cursor : Option τ} {pages others : List (List ε)}
    (walk : Walk token fetch request cursor pages)
    (other : Walk token fetch request cursor others) : pages = others := by
  induction walk generalizing others with
  | finished empty =>
      cases other with
      | finished _ => rfl
      | turned fetched ends _ =>
          cases determined empty fetched
          cases ends
  | turned fetched ends _ inductionHypothesis =>
      cases other with
      | finished empty =>
          cases determined empty fetched
          cases ends
      | turned otherFetched otherEnds otherOnwards =>
          cases determined fetched otherFetched
          cases ends.symm.trans otherEnds
          rw [inductionHypothesis otherOnwards]

section Pages

variable {earlier : τ → τ → Prop} [DecidableRel earlier] [IsStrictOrder τ earlier]
  {entries : List ε} {size : Nat → Nat}

/-- Pages with room for an entry take the client through all that is behind the
cursor, in as many requests as there are entries at most. -/
theorem walk_exists (ascending : Ascending earlier token entries)
    (room : ∀ request, 0 < size request)
    (fetches : ∀ request cursor,
      fetch request cursor ((behind earlier token entries cursor).take (size request))) :
    ∀ (remaining request : Nat) (cursor : Option τ),
      (behind earlier token entries cursor).length ≤ remaining →
      ∃ pages, Walk token fetch request cursor pages ∧
        pages.flatten = behind earlier token entries cursor := by
  intro remaining
  induction remaining with
  | zero =>
      intro request cursor short
      have nothing : behind earlier token entries cursor = [] :=
        List.length_eq_zero_iff.mp (Nat.le_zero.mp short)
      have fetched := fetches request cursor
      rw [nothing, List.take_nil] at fetched
      exact ⟨[], .finished fetched, nothing.symm⟩
  | succ remaining inductionHypothesis =>
      intro request cursor short
      have fetched := fetches request cursor
      have split := List.take_append_drop (size request) (behind earlier token entries cursor)
      rcases List.eq_nil_or_concat' ((behind earlier token entries cursor).take (size request))
        with empty | ⟨front, last, ends⟩
      · rw [empty] at fetched
        refine ⟨[], .finished fetched, ?_⟩
        rcases List.take_eq_nil_iff.mp empty with none | nothing
        · exact absurd none (room request).ne'
        · exact nothing.symm
      · rw [ends] at fetched split
        have splitAtLast : behind earlier token entries cursor = front ++ last ::
            (behind earlier token entries cursor).drop (size request) := by
          rw [List.append_assoc] at split
          exact split.symm
        have onwards := behind_of_split ascending splitAtLast
        have fewer := congrArg List.length splitAtLast
        rw [List.length_append, List.length_cons] at fewer
        obtain ⟨pages, walk, reads⟩ :=
          inductionHypothesis (request + 1) (some (token last)) (by rw [onwards]; omega)
        refine ⟨(front ++ [last]) :: pages, .turned fetched (by simp) walk, ?_⟩
        rw [List.flatten_cons, reads, onwards]
        exact split

end Pages

end DemurrageToken.Library.Pages
