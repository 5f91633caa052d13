import GraphQuery.Dialect
import GraphQuery.Proofs.Erasure.Query

/-! No statement shows a bound value: what is written for a query and its rows is written from the
erased ones. -/
namespace GraphQuery

namespace Condition

mutual

theorem tokens_erase (s : Settings) (target : String) :
    (c : Condition) → c.erase.tokens s target = c.tokens s target
  | .group conditions _ => by simp only [erase, tokens, tokens_of_erase s target conditions]
  | .comparison _ _ (.bound _) _ _ | .comparison _ _ (.raw _) _ _ | .isIn .. | .notIn ..
  | .inQuery .. | .between .. | .isNull .. | .notNull .. | .carried .. | .queryComparison .. => rfl

theorem tokens_of_erase (s : Settings) (target : String) : (conditions : List Condition) →
    tokensOf s target (eraseAll conditions) = tokensOf s target conditions
  | [] => rfl
  | c :: rest => by
    simp only [eraseAll, tokensOf, tokens_erase s target c, joined_tokens_erase s target rest]

theorem joined_tokens_erase (s : Settings) (target : String) : (conditions : List Condition) →
    joinedTokens s target (eraseAll conditions) = joinedTokens s target conditions
  | [] => rfl
  | c :: rest => by
    simp only [eraseAll, joinedTokens, connective_erase, tokens_erase s target c,
      joined_tokens_erase s target rest]

end

end Condition

theorem parameter_properties_erase (row : Row) (names : List ParameterName) :
    parameterProperties row.erase names = parameterProperties row names := by
  simp only [parameterProperties, Record.keys_erase]

namespace Query

variable (q : Query) (s : Settings)

theorem predicate_erase : q.erase.predicate s = q.predicate s := by
  simp only [predicate, erase, Condition.tokens_of_erase, Condition.length_erase_all, targetAlias]
  rfl

theorem reading_erase : q.erase.reading s = q.reading s := by
  simp only [reading, predicate_erase]
  rfl

theorem select_erase : q.erase.select s = q.select s := by
  simp only [select, reading_erase]
  rfl

theorem row_names_erase (rows : List Row) : rowNames (rows.map Record.erase) = rowNames rows := by
  have from_erase : ∀ used, rowNamesFrom used (rows.map Record.erase) = rowNamesFrom used rows := by
    induction rows with
    | nil => exact fun _ => rfl
    | cons row rest ih =>
      intro used
      simp only [List.map_cons, rowNamesFrom, Record.keys_erase, ih]
  exact from_erase []

theorem inserted_nodes_erase (rows : List Row) :
    q.insertedNodes s (rows.map Record.erase) = q.insertedNodes s rows := by
  unfold insertedNodes
  rw [row_names_erase, List.zip_map_left]
  refine List.ext_getElem? fun i => ?_
  rw [List.getElem?_mapIdx, List.getElem?_mapIdx, List.getElem?_map, Option.map_map]
  simp only [Function.comp_def, insertedNode, Prod.map_fst, Prod.map_snd,
    parameter_properties_erase, id]

theorem insert_erase (rows : List Row) :
    q.erase.insert s (rows.map Record.erase) = q.insert s rows := by
  have nodes := q.inserted_nodes_erase s rows
  unfold insert
  rw [List.isEmpty_map, ← nodes]
  rfl

theorem insert_returning_erase (row : Row) (sequence : Option String) :
    q.erase.insertReturning s row.erase sequence = q.insertReturning s row sequence := by
  have names := row_names_erase [row]
  simp only [List.map_cons, List.map_nil] at names
  simp only [insertReturning, names, parameter_properties_erase]
  rfl

theorem update_names_erase (values : Row) :
    q.erase.updateNames s values.erase = q.updateNames s values := by
  simp only [updateNames, parameters_erase, Record.keys_erase]

theorem update_erase (values : Row) : q.erase.update s values.erase = q.update s values := by
  simp only [update, Record.is_empty_erase, update_names_erase, Record.keys_erase, reading_erase]
  rfl

end Query

theorem Node.connect_erase (s : Settings) (parent related : Node) (relationship : String)
    (properties : Row) :
    connect s parent related relationship properties.erase =
      connect s parent related relationship properties := by
  have names := Query.row_names_erase [properties]
  simp only [List.map_cons, List.map_nil] at names
  simp only [connect, names, parameter_properties_erase]

/-- Whether all parameters can be written out does not depend on their values. -/
theorem Template.fill_erase (p : Parameters) (t : Template) :
    (t.fill p.erase).map (fun _ => ()) = (t.fill p).map fun _ => () := by
  induction t with
  | nil => rfl
  | cons part rest ih =>
    cases part with
    | text s =>
      simp only [fill]
      cases h : fill p.erase rest <;> cases g : fill p rest <;>
        simp only [h, g] at ih ⊢ <;> exact ih
    | parameter name =>
      simp only [fill, Record.get_erase]
      cases p.get? name with
      | none => rfl
      | some value =>
        simp only [Option.map_some]
        cases h : fill p.erase rest <;> cases g : fill p rest <;>
          simp only [h, g] at ih ⊢ <;> exact ih

theorem inline_parameters_erase (text : String) (p : Parameters) :
    (inlineParameters text p.erase).map (fun _ => ()) =
      (inlineParameters text p).map fun _ => () := by
  have filled := Template.fill_erase p (.ofText text)
  unfold inlineParameters
  cases h : Template.fill p.erase (.ofText text) <;> cases g : Template.fill p (.ofText text) <;>
    simp only [h, g] at filled ⊢ <;> exact filled

theorem Dialect.select_erase (d : Dialect) (q : Query) : d.select q.erase = d.select q := by
  simp only [select, Query.select_erase]
  rfl

end GraphQuery
