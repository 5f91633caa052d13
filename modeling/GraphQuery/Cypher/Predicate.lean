import GraphQuery.Cypher.Column
import GraphQuery.Operator
import GraphQuery.Query
import GraphQuery.Template

/-! The predicate of a query as a sequence of tokens. -/
namespace GraphQuery

inductive Token where
  | atom (t : Template)
  | and
  | or
  | opening
  | closing

def Token.template : Token → Template
  | .atom t => t
  | .and => [.text " AND "]
  | .or => [.text " OR "]
  | .opening => [.text "("]
  | .closing => [.text ")"]

def Connective.token : Connective → Token
  | .and => .and
  | .or => .or

/-- A sub-query between braces; its text keeps its own parameters. -/
def Template.collected (query : String) : Template :=
  .text "COLLECT \x7b " :: ofText query ++ [.text " \x7d"]

/-- The left side of a comparison, up to its right side. -/
def Settings.comparison (s : Settings) (target column operator : String) : String :=
  s.column target column ++ " " ++ Operator.render operator ++ " "

namespace Condition

mutual

def tokens (s : Settings) (target : String) : Condition → List Token
  | comparison column operator (.bound _) _ name =>
    [.atom [.text (s.comparison target column operator), .parameter name.render]]
  | comparison column operator (.raw expression) _ _ =>
    [.atom [.text (s.comparison target column operator ++ expression)]]
  | isIn column _ _ name =>
    [.atom [.text (s.column target column ++ " IN "), .parameter name.render]]
  | notIn column _ _ name =>
    [.atom [.text ("NOT " ++ s.column target column ++ " IN "), .parameter name.render]]
  | inQuery column query _ negated =>
    [.atom (.text ((if negated then "NOT " else "") ++ s.column target column ++ " IN ") ::
      Template.collected query)]
  | between column _ negated name =>
    let c := s.column target column
    [.atom [.text ((if negated then "NOT (" else "(") ++ c ++ " >= "), .parameter name.render,
      .text ("[0] AND " ++ c ++ " <= "), .parameter name.render, .text "[1])"]]
  | isNull column _ _ => [.atom [.text (s.column target column ++ " IS NULL")]]
  | notNull column _ _ => [.atom [.text (s.column target column ++ " IS NOT NULL")]]
  | carried column operator identifier _ =>
    [.atom [.text (s.comparison target column operator ++ identifier)]]
  | group conditions _ => .opening :: tokensOf s target conditions ++ [.closing]
  | queryComparison column operator query _ =>
    [.atom (.text (s.comparison target column operator ++ "head(") ::
      Template.collected query ++ [.text ")"])]

/-- Each condition is joined by its own connective; that of the first is not used. -/
def tokensOf (s : Settings) (target : String) : List Condition → List Token
  | [] => []
  | c :: rest => tokens s target c ++ joinedTokens s target rest

def joinedTokens (s : Settings) (target : String) : List Condition → List Token
  | [] => []
  | c :: rest => c.connective.token :: tokens s target c ++ joinedTokens s target rest

end

end Condition

/-- What a traversal asks of its property, if anything: a relation asks it of the parent, a
polymorphic one of the related node. -/
def Traversal.constraint? (s : Settings) : Traversal → Option Template
  | relation property _ _ parent _ name constrained =>
    if constrained then
      some [.text (s.column parent.nodeAlias property ++ " = "), .parameter name.render]
    else none
  | polymorphic property _ related _ name constrained =>
    if constrained then
      some [.text (s.column related property ++ " = "), .parameter name.render]
    else none

/-- The constraints of traversals come first, joined with AND. Beside them a list of several
conditions is put in parentheses. -/
def Query.predicate (q : Query) (s : Settings) : List Token :=
  let constraints := (q.traversals.filterMap (·.constraint? s)).map Token.atom
  let conditions := Condition.tokensOf s (q.targetAlias s) q.conditions
  let grouped :=
    if 1 < q.conditions.length then .opening :: conditions ++ [.closing] else conditions
  match constraints with
  | [] => conditions
  | _ => constraints.intersperse .and ++ if conditions.isEmpty then [] else .and :: grouped

end GraphQuery
