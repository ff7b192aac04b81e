import IbanWatch.Json.Reader

/-!
# What the readers of lists and objects take

A reader of JSON carries a proof that it leaves less than it was given.  Here that proof is put
aside: what each reader takes is told by what it finds and what it leaves, one equivalence for each
reader, and the loop over the items of a list or an object by an inductive relation.

## Main definitions

* `Takes` — a reader finds something at the head of a text and leaves a rest.
* `TakesItems` — the same for the items up to a closing bracket.

## Main results

* `takes_readGroup_iff`, `takes_readMember_iff`, `takes_readLevel_iff` — what the readers take.
-/

namespace IbanWatch.Json

open Text

/-- The reader finds this at the head of the text and leaves that. -/
def Takes {α : Type} (reader : Reader α) (s : Bytes) (found : α) (rest : Bytes) : Prop :=
  ∃ shorter, reader s = .ok ⟨found, rest, shorter⟩

/-- The items from the head of the text to the closing bracket, parted by commas. -/
inductive TakesItems {α : Type} (group : Group) (item : Reader α) : Bytes → List α → Bytes → Prop
  /-- The last item, behind which the bracket is closed. -/
  | last {s r rest : Bytes} {a : α} (ha : Takes item s a r)
      (hclose : skipSpace r = group.close :: rest) : TakesItems group item s [a] rest
  /-- An item, a comma and further items. -/
  | more {s r r' s' rest : Bytes} {b : UInt8} {a : α} {as : List α} (ha : Takes item s a r)
      (hcomma : skipSpace r = 44 :: r') (hnext : skipSpace r' = b :: s') (hb : b ≠ group.close)
      (has : TakesItems group item (b :: s') as rest) : TakesItems group item s (a :: as) rest

variable {α : Type} {group : Group} {item : Reader α}

/-! ### Items -/

/-- What the loop over the items takes: the items found before, and those up to the bracket. -/
theorem takesItems_of_readItems {start s rest : Bytes} {reversed found : List α}
    {within : s.length ≤ start.length} {shorter : rest.length < start.length}
    (h : readItems group item start reversed s within = .ok ⟨found, rest, shorter⟩) :
    ∃ items, found = reversed.reverse ++ items ∧ TakesItems group item s items rest := by
  fun_induction readItems group item start reversed s within with
  | case3 reversed s within a r hr hitem t hclose =>
    cases h
    exact ⟨[a], List.reverse_cons, .last ⟨hr, hitem⟩ hclose⟩
  | case6 reversed s within a r hr hitem t b t' hnext _ hb hcomma _ _ ih =>
    obtain ⟨items, rfl, hitems⟩ := ih h
    refine ⟨a :: items, ?_, .more ⟨hr, hitem⟩ hcomma hnext hb hitems⟩
    rw [List.reverse_cons, List.append_assoc]
    rfl
  | _ => cases h

/-- The loop takes all items up to the bracket. -/
theorem readItems_of_takesItems (hcomma : group.close ≠ 44) {s rest : Bytes} {items : List α}
    (h : TakesItems group item s items rest) (start : Bytes) (reversed : List α)
    (within : s.length ≤ start.length) :
    ∃ shorter, readItems group item start reversed s within
      = .ok ⟨reversed.reverse ++ items, rest, shorter⟩ := by
  induction h generalizing reversed with
  | @last s r rest a ha hclose =>
    -- What is behind the last item is shorter than what the loop began with.
    obtain ⟨hr, hitem⟩ := ha
    have hlen := length_skipSpace_le r
    rw [hclose, List.length_cons] at hlen
    refine ⟨by omega, ?_⟩
    unfold readItems
    split
    · next heq => rw [hitem] at heq; cases heq
    · next heq =>
      rw [hitem] at heq
      cases heq
      split
      · next hskip => rw [hclose] at hskip; cases hskip
      · next hskip =>
        rw [hclose] at hskip
        cases hskip
        simp
  | @more s r r' s' rest b a as ha hsep hnext hb _ ih =>
    obtain ⟨hr, hitem⟩ := ha
    have hlen : (b :: s').length ≤ start.length := by
      have h₁ := length_skipSpace_le r
      have h₂ := length_skipSpace_le r'
      rw [hsep] at h₁
      rw [hnext] at h₂
      simp only [List.length_cons] at h₁ h₂ ⊢
      omega
    -- The loop goes on with one more item found, and the induction is over all that may be found.
    obtain ⟨shorter, hmore⟩ := ih (a :: reversed) hlen
    refine ⟨shorter, ?_⟩
    unfold readItems
    split
    · next heq => rw [hitem] at heq; cases heq
    · next heq =>
      rw [hitem] at heq
      cases heq
      split
      · next hskip => rw [hsep] at hskip; cases hskip
      · next hskip =>
        rw [hsep] at hskip
        cases hskip
        rw [if_neg (Ne.symm hcomma), if_pos rfl]
        split
        · next hskip' => rw [hnext] at hskip'; cases hskip'
        · next hskip' =>
          rw [hnext] at hskip'
          cases hskip'
          rw [if_neg hb, hmore]
          simp

/-- **What is taken between brackets**: nothing, or items up to the closing bracket. -/
theorem takes_readGroup_iff (hcomma : group.close ≠ 44) {s rest : Bytes} {items : List α} :
    Takes (readGroup group item) s items rest ↔ ∃ b t, skipSpace s = b :: t
      ∧ ((b = group.close ∧ items = [] ∧ rest = t)
        ∨ (b ≠ group.close ∧ TakesItems group item (b :: t) items rest)) := by
  constructor
  · rintro ⟨shorter, h⟩
    unfold readGroup at h
    split at h
    · cases h
    · next b t hskip =>
      refine ⟨b, t, hskip, ?_⟩
      by_cases hb : b = group.close
      · rw [if_pos hb] at h
        cases h
        exact .inl ⟨hb, rfl, rfl⟩
      · rw [if_neg hb] at h
        obtain ⟨found, rfl, hitems⟩ := takesItems_of_readItems h
        exact .inr ⟨hb, hitems⟩
  -- The reader shows itself that it leaves less, so that has to be given with what it takes.
  · rintro ⟨b, t, hskip, h⟩
    have hlen := length_skipSpace_le s
    rw [hskip] at hlen
    rcases h with ⟨hb, rfl, rfl⟩ | ⟨hb, hitems⟩
    · refine ⟨hlen, ?_⟩
      unfold readGroup
      split
      · next hskip' => rw [hskip] at hskip'; cases hskip'
      · next hskip' =>
        rw [hskip] at hskip'
        cases hskip'
        rw [if_pos hb]
    · obtain ⟨shorter, hread⟩ := readItems_of_takesItems hcomma hitems s [] hlen
      refine ⟨shorter, ?_⟩
      unfold readGroup
      split
      · next hskip' => rw [hskip] at hskip'; cases hskip'
      · next hskip' =>
        rw [hskip] at hskip'
        cases hskip'
        rw [if_neg hb]
        exact hread

/-! ### Members -/

/-- **What is taken as a member**: a string, a colon and a value. -/
theorem takes_readMember_iff {value : Reader Value} {s rest : Bytes} {m : String × Value} :
    Takes (readMember value) s m rest ↔ ∃ t u r, s = 34 :: t ∧ readText t = .ok (m.1, u)
      ∧ skipSpace u = 58 :: r ∧ Takes value r m.2 rest := by
  constructor
  · rintro ⟨shorter, h⟩
    unfold readMember at h
    split at h
    · cases h
    · next q t =>
      split at h
      · next hq =>
        split at h
        · cases h
        · next key u htext =>
          split at h
          · cases h
          · next b r hskip =>
            split at h
            · next hb =>
              split at h
              · cases h
              · next hv =>
                cases h
                exact ⟨t, u, r, by rw [hq], htext, by rw [hskip, hb], _, hv⟩
            · cases h
      · cases h
  · rintro ⟨t, u, r, rfl, htext, hskip, hr, hv⟩
    -- Each part leaves less than it was given, and so does the member.
    have h₁ := length_lt_of_readText htext
    have h₂ := length_skipSpace_le u
    rw [hskip, List.length_cons] at h₂
    refine ⟨by rw [List.length_cons]; omega, ?_⟩
    unfold readMember
    simp only [if_true]
    split
    · next htext' => rw [htext] at htext'; cases htext'
    · next htext' =>
      rw [htext] at htext'
      cases htext'
      split
      · next hskip' => rw [hskip] at hskip'; cases hskip'
      · next hskip' =>
        rw [hskip] at hskip'
        cases hskip'
        rw [if_pos rfl]
        split
        · next hv' => rw [hv] at hv'; cases hv'
        · next hv' =>
          rw [hv] at hv'
          cases hv'
          rfl

/-! ### Values -/

/-- Something that is neither a list nor an object is taken as a value, behind white space. -/
theorem takes_readLevel_scalar {nested : Option (Reader Value)} {b : UInt8} {s t rest : Bytes}
    {v : Value} (hskip : skipSpace s = b :: t) (hlist : b ≠ 91) (hobject : b ≠ 123)
    (h : readScalar b t = .ok (v, rest)) : Takes (readLevel nested) s v rest := by
  have hlen := length_skipSpace_le s
  have hle := length_le_of_readScalar h
  rw [hskip, List.length_cons] at hlen
  refine ⟨by omega, ?_⟩
  unfold readLevel
  split
  · next hskip' => rw [hskip] at hskip'; cases hskip'
  · next hskip' =>
    rw [hskip] at hskip'
    cases hskip'
    rw [if_neg (by simp [hlist, hobject])]
    split
    · next hscalar' => rw [h] at hscalar'; cases hscalar'
    · next hscalar' =>
      rw [h] at hscalar'
      cases hscalar'
      rfl

theorem takes_readLevel_list {value : Reader Value} {s t rest : Bytes} {items : List Value}
    (hskip : skipSpace s = 91 :: t) (h : Takes (readGroup .list value) t items rest) :
    Takes (readLevel (some value)) s (.list items) rest := by
  have hlen := length_skipSpace_le s
  rw [hskip, List.length_cons] at hlen
  obtain ⟨shorter, hread⟩ := h
  refine ⟨by omega, ?_⟩
  unfold readLevel
  split
  · next hskip' => rw [hskip] at hskip'; cases hskip'
  · next hskip' =>
    rw [hskip] at hskip'
    cases hskip'
    simp only [decide_true, Bool.true_or, if_true, hread]
    rfl

theorem takes_readLevel_object {value : Reader Value} {s t rest : Bytes}
    {members : List (String × Value)} (hskip : skipSpace s = 123 :: t)
    (h : Takes (readGroup .object (readMember value)) t members rest) :
    Takes (readLevel (some value)) s (.object members) rest := by
  have hlen := length_skipSpace_le s
  rw [hskip, List.length_cons] at hlen
  obtain ⟨shorter, hread⟩ := h
  refine ⟨by omega, ?_⟩
  unfold readLevel
  split
  · next hskip' => rw [hskip] at hskip'; cases hskip'
  · next hskip' =>
    rw [hskip] at hskip'
    cases hskip'
    simp only [decide_true, Bool.or_true, if_true, hread]
    rfl

/-- **What is taken as a value**: a list or an object, whose items are values of the level below,
or something that is neither. -/
theorem takes_readLevel_iff {nested : Option (Reader Value)} {s rest : Bytes} {v : Value} :
    Takes (readLevel nested) s v rest ↔ ∃ b t, skipSpace s = b :: t
      ∧ ((b ≠ 91 ∧ b ≠ 123 ∧ readScalar b t = .ok (v, rest))
        ∨ ∃ value, nested = some value
          ∧ ((b = 91 ∧ ∃ items, v = .list items ∧ Takes (readGroup .list value) t items rest)
            ∨ (b = 123 ∧ ∃ members, v = .object members
              ∧ Takes (readGroup .object (readMember value)) t members rest))) := by
  constructor
  · rintro ⟨shorter, h⟩
    unfold readLevel at h
    split at h
    · cases h
    · next b t hskip =>
      refine ⟨b, t, hskip, ?_⟩
      split at h
      · next hopen =>
        split at h
        · cases h
        · next value =>
          refine .inr ⟨value, rfl, ?_⟩
          split at h
          · next hb =>
            cases hg : readGroup Group.list value t with
            | error fault => rw [hg] at h; cases h
            | ok found =>
              obtain ⟨items, last, hlast⟩ := found
              rw [hg] at h
              cases h
              exact .inl ⟨hb, items, rfl, hlast, hg⟩
          · next hb =>
            -- Not a list, so the opening bracket is that of an object.
            have hb' : b = 123 := by simpa [hb] using hopen
            cases hg : readGroup Group.object (readMember value) t with
            | error fault => rw [hg] at h; cases h
            | ok found =>
              obtain ⟨members, last, hlast⟩ := found
              rw [hg] at h
              cases h
              exact .inr ⟨hb', members, rfl, hlast, hg⟩
      · next hopen =>
        simp only [Bool.or_eq_true, decide_eq_true_eq, not_or] at hopen
        split at h
        · cases h
        · next hscalar =>
          cases h
          exact .inl ⟨hopen.1, hopen.2, hscalar⟩
  · rintro ⟨b, t, hskip, ⟨hlist, hobject, hscalar⟩ | ⟨value, rfl, h⟩⟩
    · exact takes_readLevel_scalar hskip hlist hobject hscalar
    · rcases h with ⟨rfl, items, rfl, htakes⟩ | ⟨rfl, members, rfl, htakes⟩
      · exact takes_readLevel_list hskip htakes
      · exact takes_readLevel_object hskip htakes

end IbanWatch.Json
