import BoundSql.Proofs.Nesting
import BoundSql.Select.Call
import BoundSql.Update

/-!
# Calls of different clauses

A select statement is completed by calls, made on its builder or on a join that the builder has
returned.  Every call concerns one clause: what the calls of a clause come to is said here without
carrying them out, and it is shown that the builder after the calls is the builder with these
clauses.  In which order calls of different clauses were made has no influence on it.  An update has
two clauses, of which the same is true.

A clause is read off a series of calls by passing over all others.  For most clauses the calls add
up; for the source, the limit and the offset the last one counts.  The joins are the exception,
since a call can complete a join which another call adds: the criteria of each join are gathered by
its position, and `Select.joinsWith` puts joins and criteria together.

The proof is by induction on the calls from the last one, with one case for each call in the step
(`Select.eq_complete_of_request?`).  What makes the steps fit together is that a builder may be
completed in two steps (`Select.complete_complete`).  This fails for a criterion that is given for a
join before the join exists, so the lemma excludes it, and a call that is made on a builder never is
of that sort.

* `Select.Request`, `Select.requests?` : calls on a builder and on its joins.
* `Select.SameClauses` : two series of calls that agree on every clause.
* `Select.complete` : a builder with the clauses of a series of calls.
* `Select.eq_complete_of_requests?` : this is what the calls lead to.
* `Update.SameClauses`, `Update.SameClauses.foldl_call` : the calls on an update.
-/

namespace BoundSql

namespace Select

variable {σ : Type}

/-- A call on a builder, or on one of the joins that it has returned, by position. -/
structure Request (σ : Type) where
  join? : Option Nat := none
  call : Call σ

/-- The builder after a request.  There is none if it has not returned such a join, or if there is
no such call where it is made. -/
def request? (q : Select σ) (r : Request σ) : Option (Select σ) :=
  if r.join?.all (· < q.joins.length) then
    (Chain.call? ⟨q, r.join?⟩ r.call).map Chain.query
  else none

/-- The builder after several requests. -/
def requests? (q : Select σ) (rs : List (Request σ)) : Option (Select σ) := rs.foldlM request? q

/-- One more request can be made on what the others have led to. -/
theorem requests?_concat {q q₁ q₂ : Select σ} {rs : List (Request σ)} {r : Request σ}
    (run : q.requests? rs = some q₁) (step : q₁.request? r = some q₂) :
    q.requests? (rs ++ [r]) = some q₂ := by
  rw [requests?] at run ⊢
  rw [List.foldlM_append, run, Option.bind_eq_bind, Option.bind_some, List.foldlM_cons, step]
  rfl

/-! ### The clause of a call -/

namespace Request

/-- What the statement is to draw from. -/
def source? : Request σ → Option (From σ)
  | ⟨_, .from source alias?⟩ => some ⟨source, alias?⟩
  | _ => none

/-- The join that is added, without criteria. -/
def joined? : Request σ → Option (Join σ)
  | ⟨_, .join kind source alias?⟩ => some ⟨kind, source, alias?, []⟩
  | _ => none

/-- The source that is drawn from or joined. -/
def drawn? : Request σ → Option σ
  | ⟨_, .from source _⟩ => some source
  | ⟨_, .join _ source _⟩ => some source
  | _ => none

/-- The criterion that is added to the join at a position.  On a join, `on` is `and` without a
group; the first criterion is written without its connector. -/
def onCriterion? (position : Nat) : Request σ → Option Criterion
  | ⟨some i, .on column condition⟩ =>
    if i = position then some (.mk .and column condition []) else none
  | ⟨some i, .and column condition group⟩ =>
    if i = position then some (.mk .and column condition group) else none
  | _ => none

/-- The criterion that is added to the restriction of the rows. -/
def criterion? : Request σ → Option Criterion
  | ⟨_, .restrict column condition group⟩ => some (.mk .and column condition group)
  | ⟨none, .and column condition group⟩ => some (.mk .and column condition group)
  | ⟨none, .or column condition group⟩ => some (.mk .or column condition group)
  | _ => none

/-- The expressions by which the rows are grouped in addition. -/
def grouped : Request σ → List Expression
  | ⟨_, .groupBy columns⟩ => columns
  | _ => []

/-- The expressions by which the rows are sorted in addition. -/
def sorted : Request σ → List Expression
  | ⟨_, .orderBy columns⟩ => columns
  | _ => []

/-- The limit that is set, which may be none. -/
def limitSet? : Request σ → Option (Option Value)
  | ⟨_, .limit count?⟩ => some count?
  | _ => none

/-- The offset that is set, which may be none. -/
def offsetSet? : Request σ → Option (Option Value)
  | ⟨_, .offset count?⟩ => some count?
  | _ => none

end Request

open Request

/-- Two series of requests on a builder agree on every clause: on the source that counts, on the
joins and the criteria of each of them, on the criteria of the restriction, on the expressions of
the grouping and of the sort order, and on the limit and the offset that count. -/
structure SameClauses (q : Select σ) (rs rs' : List (Request σ)) : Prop where
  source : (rs.filterMap source?).getLast?.or q.from? = (rs'.filterMap source?).getLast?.or q.from?
  joins : rs.filterMap joined? = rs'.filterMap joined?
  on : ∀ position, rs.filterMap (onCriterion? position) = rs'.filterMap (onCriterion? position)
  restriction : rs.filterMap criterion? = rs'.filterMap criterion?
  grouping : rs.flatMap grouped = rs'.flatMap grouped
  order : rs.flatMap sorted = rs'.flatMap sorted
  limit : (rs.filterMap limitSet?).getLast?.getD q.limit? =
    (rs'.filterMap limitSet?).getLast?.getD q.limit?
  offset : (rs.filterMap offsetSet?).getLast?.getD q.offset? =
    (rs'.filterMap offsetSet?).getLast?.getD q.offset?

/-! ### All clauses -/

/-- The joins with those that some requests add, each with the criteria that are added to it. -/
def joinsWith (joins : List (Join σ)) (rs : List (Request σ)) : List (Join σ) :=
  (joins ++ rs.filterMap joined?).mapIdx fun position j =>
    { j with criteria := j.criteria ++ rs.filterMap (onCriterion? position) }

/-- The builder with the clauses of some requests. -/
def complete (q : Select σ) (rs : List (Request σ)) : Select σ :=
  { q with
    from? := (rs.filterMap source?).getLast?.or q.from?
    joins := joinsWith q.joins rs
    criteria := q.criteria ++ rs.filterMap criterion?
    groupBy := q.groupBy ++ rs.flatMap grouped
    orderBy := q.orderBy ++ rs.flatMap sorted
    limit? := (rs.filterMap limitSet?).getLast?.getD q.limit?
    offset? := (rs.filterMap offsetSet?).getLast?.getD q.offset? }

/-- Requests that agree on every clause complete a builder alike. -/
theorem SameClauses.complete_eq {q : Select σ} {rs rs' : List (Request σ)}
    (same : q.SameClauses rs rs') : q.complete rs = q.complete rs' := by
  have joins : joinsWith q.joins rs = joinsWith q.joins rs' := by
    unfold joinsWith
    simp only [same.joins, same.on]
  unfold complete
  rw [same.source, joins, same.restriction, same.grouping, same.order, same.limit, same.offset]

/-! ### The joins -/

section Joins

variable {joins : List (Join σ)} {rs : List (Request σ)}

theorem length_joinsWith :
    (joinsWith joins rs).length = joins.length + (rs.filterMap joined?).length := by
  rw [joinsWith, List.length_mapIdx, List.length_append]

/-- A join is found in its place with the criteria for this place. -/
theorem getElem?_joinsWith (position : Nat) :
    (joinsWith joins rs)[position]? = ((joins ++ rs.filterMap joined?)[position]?).map fun j =>
      { j with criteria := j.criteria ++ rs.filterMap (onCriterion? position) } := by
  rw [joinsWith, List.getElem?_mapIdx]

/-- Criteria make no difference to what is joined. -/
theorem map_source_joinsWith :
    (joinsWith joins rs).map Join.source = (joins ++ rs.filterMap joined?).map Join.source := by
  apply List.ext_getElem?
  intro position
  rw [List.getElem?_map, getElem?_joinsWith, List.getElem?_map, Option.map_map]
  rfl

/-- Requests that add no criterion to a join only append joins. -/
theorem joinsWith_of_no_criterion
    (none : ∀ position, rs.filterMap (onCriterion? position) = []) :
    joinsWith joins rs = joins ++ rs.filterMap joined? := by
  apply List.ext_getElem?
  intro position
  rw [getElem?_joinsWith, none position]
  simp

/-- A request that adds a criterion to a join appends it there. -/
theorem joinsWith_of_criterion {r : Request σ} {i : Nat} {c : Criterion} (none : r.joined? = .none)
    (criterion : ∀ position, r.onCriterion? position = if i = position then some c else .none) :
    joinsWith joins [r] = joins.modify i fun j => { j with criteria := j.criteria ++ [c] } := by
  apply List.ext_getElem?
  intro position
  rw [getElem?_joinsWith, List.getElem?_modify]
  by_cases here : i = position <;> simp [none, criterion, here]

/-- Joins may be added, and completed, in two steps, unless the first one already completes a join
that only the second one adds.  Then the first step would lose the criterion, and both together
would not. -/
theorem joinsWith_joinsWith {rs' : List (Request σ)}
    (known : ∀ position, (joinsWith joins rs).length ≤ position →
      rs.filterMap (onCriterion? position) = []) :
    joinsWith (joinsWith joins rs) rs' = joinsWith joins (rs ++ rs') := by
  apply List.ext_getElem?
  intro position
  rw [getElem?_joinsWith, getElem?_joinsWith, List.filterMap_append, List.filterMap_append,
    ← List.append_assoc joins]
  have length : (joinsWith joins rs).length = (joins ++ rs.filterMap joined?).length := by
    rw [length_joinsWith, List.length_append]
  by_cases before : position < (joinsWith joins rs).length
  · rw [List.getElem?_append_left before, List.getElem?_append_left (length ▸ before),
      getElem?_joinsWith, Option.map_map]
    simp only [Function.comp_def, List.append_assoc]
  · have behind := Nat.le_of_not_lt before
    rw [List.getElem?_append_right behind, List.getElem?_append_right (length ▸ behind), length,
      known position behind, List.nil_append]

end Joins

/-! ### Requests -/

theorem complete_nil (q : Select σ) : q.complete [] = q := by
  have joins : joinsWith q.joins [] = q.joins := by
    rw [joinsWith_of_no_criterion fun _ => rfl]
    exact List.append_nil _
  simp [complete, joins]

/-- A builder may be completed in two steps, unless the first one already adds a criterion to a
join that only the second one adds. -/
theorem complete_complete {q : Select σ} {rs rs' : List (Request σ)}
    (known : ∀ position, (q.complete rs).joins.length ≤ position →
      rs.filterMap (onCriterion? position) = []) :
    (q.complete rs).complete rs' = q.complete (rs ++ rs') := by
  have joins : joinsWith (q.complete rs).joins rs' = joinsWith q.joins (rs ++ rs') :=
    joinsWith_joinsWith known
  simp only [complete] at joins ⊢
  simp only [joins, List.filterMap_append, List.flatMap_append, List.getLast?_append,
    Option.or_assoc, Option.getD_or, List.append_assoc]

/-- A request adds a criterion only to a join that the builder has. -/
theorem onCriterion?_of_request? {q q' : Select σ} {r : Request σ} (h : q.request? r = some q')
    {position : Nat} (behind : q.joins.length ≤ position) : r.onCriterion? position = none := by
  obtain ⟨join?, call⟩ := r
  rw [request?] at h
  split at h
  case isFalse => cases h
  case isTrue known =>
    cases join? with
    | none => cases call <;> rfl
    | some i =>
      have other : i ≠ position := by
        have inside : i < q.joins.length := by simpa using known
        omega
      cases call <;> simp [onCriterion?, other]

/-- What one request makes of a builder, clause by clause. -/
theorem complete_singleton (q : Select σ) (r : Request σ) :
    q.complete [r] =
      { q with
        from? := r.source?.or q.from?
        joins := joinsWith q.joins [r]
        criteria := q.criteria ++ r.criterion?.toList
        groupBy := q.groupBy ++ r.grouped
        orderBy := q.orderBy ++ r.sorted
        limit? := r.limitSet?.getD q.limit?
        offset? := r.offsetSet?.getD q.offset? } := by
  cases source : r.source? <;> cases criterion : r.criterion? <;> cases limit : r.limitSet? <;>
    cases offset : r.offsetSet? <;> simp [complete, source, criterion, limit, offset]

/-- The builder after a request is the builder with the clause of this request.  There is one case
for each call, and in each all other clauses are left as they are. -/
theorem eq_complete_of_request? {q q' : Select σ} {r : Request σ} (h : q.request? r = some q') :
    q' = q.complete [r] := by
  obtain ⟨join?, call⟩ := r
  rw [request?] at h
  split at h
  case isFalse => cases h
  case isTrue =>
    -- A call that is neither a join nor a criterion of one leaves the joins as they are; what is
    -- left of each case is the one clause the call adds to.
    have unjoined (same : joined? ⟨join?, call⟩ = none)
        (criterion : ∀ position, onCriterion? position ⟨join?, call⟩ = none) :
        joinsWith q.joins [⟨join?, call⟩] = q.joins := by
      rw [joinsWith_of_no_criterion (by simp [criterion])]
      simp [same]
    rw [complete_singleton]
    cases call with
    | join kind source alias? =>
      cases h
      rw [joinsWith_of_no_criterion fun _ => by cases join? <;> rfl]
      cases join? <;>
        simp [source?, joined?, criterion?, grouped, sorted, limitSet?, offsetSet?, Chain.joining]
    | on column condition =>
      cases join? with
      | none => cases h
      | some i =>
        cases h
        rw [joinsWith_of_criterion rfl fun _ => rfl]
        simp [source?, criterion?, grouped, sorted, limitSet?, offsetSet?, addJoinCriterion]
    | and column condition group =>
      cases join? with
      | none =>
        cases h
        rw [unjoined rfl fun _ => rfl]
        simp [source?, criterion?, grouped, sorted, limitSet?, offsetSet?, addCriterion,
          Chain.atQuery]
      | some i =>
        cases h
        rw [joinsWith_of_criterion rfl fun _ => rfl]
        simp [source?, criterion?, grouped, sorted, limitSet?, offsetSet?, addJoinCriterion]
    | or column condition group =>
      cases join? with
      | none =>
        cases h
        rw [unjoined rfl fun _ => rfl]
        simp [source?, criterion?, grouped, sorted, limitSet?, offsetSet?, addCriterion,
          Chain.atQuery]
      | some i => cases h
    | «from» source alias? =>
      cases join? with
      | none =>
        cases h
        rw [unjoined rfl fun _ => rfl]
        simp [source?, criterion?, grouped, sorted, limitSet?, offsetSet?, draw, Chain.atQuery]
      | some i => cases h
    | restrict | groupBy | orderBy | limit | offset =>
      cases h
      rw [unjoined (by cases join? <;> rfl) fun _ => by cases join? <;> rfl]
      cases join? <;>
        simp [source?, criterion?, grouped, sorted, limitSet?, offsetSet?, addCriterion,
          Chain.atQuery]

/-- The builder after several requests is the builder with their clauses.  The induction is from the
last request, since the joins that a request can be made on are those added before it. -/
theorem eq_complete_of_requests? {q q' : Select σ} {rs : List (Request σ)}
    (h : q.requests? rs = some q') : q' = q.complete rs := by
  induction rs generalizing q with
  | nil =>
    cases h
    exact (complete_nil _).symm
  | cons r rs ih =>
    rw [requests?, List.foldlM_cons, Option.bind_eq_bind, Option.bind_eq_some_iff] at h
    obtain ⟨q₁, first, others⟩ := h
    have step : q₁ = q.complete [r] := eq_complete_of_request? first
    have known (position : Nat) (behind : (q.complete [r]).joins.length ≤ position) :
        [r].filterMap (onCriterion? position) = [] := by
      have length : q.joins.length ≤ (q.complete [r]).joins.length := by
        show q.joins.length ≤ (joinsWith q.joins [r]).length
        rw [length_joinsWith]
        exact Nat.le_add_right _ _
      rw [List.filterMap_cons, onCriterion?_of_request? first (Nat.le_trans length behind)]
      rfl
    rw [ih others, step, complete_complete known, List.singleton_append]

/-- Calls on a builder and its joins that agree on every clause lead to the same builder, in
whatever order those of different clauses are made. -/
theorem SameClauses.eq_of_requests? {q q₁ q₂ : Select σ} {rs rs' : List (Request σ)}
    (same : q.SameClauses rs rs') (h₁ : q.requests? rs = some q₁) (h₂ : q.requests? rs' = some q₂) :
    q₂ = q₁ := by
  rw [eq_complete_of_requests? h₁, eq_complete_of_requests? h₂, same.complete_eq]

/-- What a builder draws from after some requests is one of its own sources, or that of a request.
The converse fails, because a source can be given up for another. -/
theorem mem_sources_complete {q : Select σ} {rs : List (Request σ)} {source : σ}
    (mem : source ∈ (q.complete rs).sources) :
    source ∈ q.sources ∨ ∃ r ∈ rs, r.drawn? = some source := by
  rcases List.mem_append.mp mem with drawn | joined
  · obtain ⟨f, hf, rfl⟩ := Option.map_eq_some_iff.mp (Option.mem_toList.mp drawn)
    rcases Option.or_eq_some_iff.mp hf with last | ⟨-, own⟩
    · obtain ⟨r, hr, given⟩ := List.mem_filterMap.mp (List.mem_of_getLast? last)
      refine .inr ⟨r, hr, ?_⟩
      obtain ⟨join?, call⟩ := r
      cases call <;> cases given
      rfl
    · exact .inl (from_mem_sources own)
  · rw [complete, map_source_joinsWith] at joined
    obtain ⟨j, hj, rfl⟩ := List.mem_map.mp joined
    rcases List.mem_append.mp hj with own | added
    · exact .inl (join_mem_sources own)
    · obtain ⟨r, hr, given⟩ := List.mem_filterMap.mp added
      refine .inr ⟨r, hr, ?_⟩
      obtain ⟨join?, call⟩ := r
      cases call <;> cases given
      rfl

end Select

/-! ### Updates -/

namespace Update

/-- What a call sets. -/
def Call.mapping? : Call → Option Mapping
  | .set column setting => some ⟨column, setting.origin⟩
  | .restrict .. => none

/-- The criterion that a call adds. -/
def Call.criterion? : Call → Option Criterion
  | .set .. => none
  | .restrict connector column condition group => some (.mk connector column condition group)

/-- Two series of calls agree on what is set and on the criteria of the restriction. -/
structure SameClauses (cs cs' : List Call) : Prop where
  settings : cs.filterMap Call.mapping? = cs'.filterMap Call.mapping?
  restriction : cs.filterMap Call.criterion? = cs'.filterMap Call.criterion?

/-- The update after some calls is the update with their clauses.  Updates return no joins, so every
call can be made at any time. -/
theorem foldl_call (u : Update) (cs : List Call) :
    cs.foldl call u =
      { u with
        mappings := u.mappings ++ cs.filterMap Call.mapping?
        criteria := u.criteria ++ cs.filterMap Call.criterion? } := by
  induction cs generalizing u with
  | nil => simp
  | cons c cs ih =>
    rw [List.foldl_cons, ih]
    cases c <;> simp [call, add, List.filterMap_cons, Call.mapping?, Call.criterion?]

/-- Calls on an update that agree on both clauses lead to the same update. -/
theorem SameClauses.foldl_call {cs cs' : List Call} (same : SameClauses cs cs') (u : Update) :
    cs'.foldl call u = cs.foldl call u := by
  rw [Update.foldl_call, Update.foldl_call, same.settings, same.restriction]

end Update

end BoundSql
