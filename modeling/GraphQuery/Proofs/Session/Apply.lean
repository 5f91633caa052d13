import GraphQuery.Session.Filter

/-! Actions applied to a session. -/
namespace GraphQuery.Action

variable {α β : Type}

@[simp] theorem pure_apply (a : α) (s : Session) : (pure a : Action α) s = (.ok a, s) := rfl

@[simp] theorem throw_apply (e : QueryError) (s : Session) :
    (throw e : Action α) s = (.error e, s) := rfl

theorem bind_apply (body : Action α) (next : α → Action β) (s : Session) :
    (body >>= next) s =
      match body s with
      | (.ok a, t) => next a t
      | (.error e, t) => (.error e, t) := by
  rcases ran : body s with ⟨_ | a, t⟩ <;>
    simp only [bind, ExceptT.bind, ExceptT.mk, StateT.bind, ran] <;> rfl

theorem bind_ok {body : Action α} {s t : Session} {a : α} (ran : body s = (.ok a, t))
    (next : α → Action β) : (body >>= next) s = next a t := by
  rw [bind_apply, ran]

theorem bind_error {body : Action α} {s t : Session} {e : QueryError}
    (failed : body s = (.error e, t)) (next : α → Action β) :
    (body >>= next) s = (.error e, t) := by
  rw [bind_apply, failed]

@[simp] theorem query_apply (s : Session) : query s = (.ok s.query, s) := rfl

@[simp] theorem modify_query_apply (f : Query → Query) (s : Session) :
    modifyQuery f s = (.ok (), { s with query := f s.query }) := rfl

@[simp] theorem report_apply (notices : List Notice) (s : Session) :
    report notices s = (.ok (), { s with notices := s.notices ++ notices }) := rfl

theorem within_ok {q : Query} {body : Action Unit} {s t : Session}
    (ran : body { s with query := q } = (.ok (), t)) :
    within q body s = (.ok t.query, { t with query := s.query }) := by
  simp only [within, ran]

theorem within_error {q : Query} {body : Action Unit} {s t : Session} {e : QueryError}
    (failed : body { s with query := q } = (.error e, t)) :
    within q body s = (.error e, { t with query := s.query }) := by
  simp only [within, failed]

theorem in_sub_query_ok {body : Action α} {s t : Session} {a : α} (ran : body s = (.ok a, t)) :
    inSubQuery body s = (.ok a, t) := by
  simp only [inSubQuery, ran]

theorem in_sub_query_error {body : Action α} {s t : Session} {e : QueryError}
    (failed : body s = (.error e, t)) :
    inSubQuery body s = (.error e.insideSubQuery, t) := by
  simp only [inSubQuery, failed]

theorem write_ok {d : Dialect} {q : Query} {t : Template} (selected : d.select q = .ok t)
    (s : Session) : ∃ u, write d q s = (.ok t.render, u) ∧ u.query = s.query := by
  unfold write
  simp only [selected, compiled]
  exact ⟨_, rfl, rfl⟩

theorem write_error {d : Dialect} {q : Query} {e : CompileError}
    (refused : d.select q = .error e) (s : Session) :
    ∃ u, write d q s = (.error (.compile e), u) ∧ u.query = s.query := by
  unfold write
  simp only [refused, compiled]
  exact ⟨_, rfl, rfl⟩

end GraphQuery.Action
