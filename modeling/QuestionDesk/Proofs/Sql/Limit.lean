import QuestionDesk.Sql.Statement

/-!
# The limit of a statement

Every statement ends with a limit on its rows that is positive and at most the greatest allowed.
-/
namespace QuestionDesk.Sql.Rules

open Plan (Query Root)

/-- The limit of a main query is positive and at most the greatest allowed. -/
theorem effectiveLimit_main {rules : Rules} (usual : 0 < rules.defaultLimit)
    (most : 0 < rules.maximumLimit) (asked : Option Int) :
    ∃ limit, rules.effectiveLimit .main asked = some limit ∧ 1 ≤ limit ∧
      limit ≤ rules.maximumLimit := by
  unfold effectiveLimit
  cases positive : asked.filter (0 < ·) with
  | none => exact ⟨min rules.defaultLimit rules.maximumLimit, rfl, by omega, by omega⟩
  | some limit =>
    have above : 0 < limit := by simpa using (Option.filter_eq_some_iff.mp positive).2
    exact ⟨min limit rules.maximumLimit, rfl, by omega, by omega⟩

/-- The text of a main query ends with its limit. -/
theorem queryText_limit {rules : Rules} (usual : 0 < rules.defaultLimit)
    (most : 0 < rules.maximumLimit) {query : Query} {text : String}
    (rendered : rules.queryText .main query = .ok text) :
    ∃ body limit, text = body ++ (" LIMIT " ++ Decimal.integerText limit) ∧ 1 ≤ limit ∧
      limit ≤ rules.maximumLimit := by
  obtain ⟨limit, found, bounds⟩ := effectiveLimit_main usual most query.limit
  simp only [queryText, found] at rendered
  split at rendered
  · cases rendered
  · split at rendered
    · cases rendered
    · cases rendered
      exact ⟨_, limit, rfl, bounds⟩

/-- A statement ends with the limit of its main query. -/
theorem statementText_limit {rules : Rules} (usual : 0 < rules.defaultLimit)
    (most : 0 < rules.maximumLimit) {plan : Root} {text : String}
    (rendered : rules.statementText plan = .ok text) :
    ∃ body limit, text = body ++ (" LIMIT " ++ Decimal.integerText limit) ∧ 1 ≤ limit ∧
      limit ≤ rules.maximumLimit := by
  unfold statementText at rendered
  split at rendered
  · cases rendered
  · next main first =>
    obtain ⟨body, limit, rfl, bounds⟩ := queryText_limit usual most first
    split at rendered
    · cases rendered
      exact ⟨body, limit, rfl, bounds⟩
    · split at rendered
      · cases rendered
      · next tables _ =>
        cases rendered
        exact ⟨"WITH " ++ Text.joined ", " tables ++ "\n" ++ body, limit, by
          simp only [String.append_assoc], bounds⟩

end QuestionDesk.Sql.Rules
