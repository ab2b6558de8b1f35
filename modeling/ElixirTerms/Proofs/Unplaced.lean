/-
# Positions do not matter

Reading takes no notice of where tokens stand: tokens taken from their places are read as the nodes
taken from their places, and an error stays the same error about the same token.
-/
import ElixirTerms.Proofs.Grammar.Complete

namespace ElixirTerms

/-! ## Tokens, errors and readings taken from their places -/

namespace Token

@[simp] theorem unplaced_kind (t : Token) : t.unplaced.kind = t.kind := rfl

@[simp] theorem unplaced_lexeme (t : Token) : t.unplaced.lexeme = t.lexeme := rfl

@[simp] theorem isDelimiter_unplaced (t : Token) (lexeme : Text) :
    t.unplaced.isDelimiter lexeme = t.isDelimiter lexeme := rfl

@[simp] theorem isOperator_unplaced (t : Token) (lexeme : Text) :
    t.unplaced.isOperator lexeme = t.isOperator lexeme := rfl

@[simp] theorem isKeywordKey_unplaced (t : Token) : t.unplaced.isKeywordKey = t.isKeywordKey := rfl

@[simp] theorem isSignificant_unplaced (t : Token) :
    t.unplaced.isSignificant = t.isSignificant := rfl

end Token

/-- The error with its token taken from its place. -/
def ParseError.unplaced : ParseError → ParseError
  | unexpectedEnd missing last => unexpectedEnd missing (last.map Token.unplaced)
  | unrecognized expected t => unrecognized expected t.unplaced
  | emptyScan t => emptyScan (t.map Token.unplaced)
  | nestingTooDeep => nestingTooDeep
  | outOfRange => outOfRange

/-- The same error is about the same token. -/
theorem ParseError.token?_unplaced (e : ParseError) :
    e.unplaced.token? = e.token?.map Token.unplaced := by
  cases e <;> rfl

variable {α β γ : Type}

/-- An answer taken from its place: its value by a given map, or its error. -/
def unplacedBy (g : α → β) : Except ParseError α → Except ParseError β
  | .ok a => .ok (g a)
  | .error e => .error e.unplaced

/-- A reading taken from its place: its value by a given map, its error and the tokens left. -/
def Reading.unplacedBy (g : α → β) : Reading α → Reading β
  | done a rest => done (g a) (rest.map Token.unplaced)
  | fail e rest => fail e.unplaced (rest.map Token.unplaced)

/-- The outcome of a reading taken from its place is the outcome taken from its place. -/
theorem Reading.outcome_unplacedBy (g : α → β) (r : Reading α) :
    (r.unplacedBy g).outcome = ElixirTerms.unplacedBy g r.outcome := by
  cases r <;> rfl

/-- A reader is blind if it reads tokens taken from their places alike. -/
def Reader.Blind (g : α → α) (read : Reader α) : Prop :=
  ∀ last ts, read (last.map Token.unplaced) (ts.map Token.unplaced) =
    (read last ts).unplacedBy g

/-- A way to read segments is blind if it reads tokens taken from their places alike. -/
def BlindOn (g : α → α) (f : List Token → Except ParseError α) : Prop :=
  ∀ ts, f (ts.map Token.unplaced) = unplacedBy g (f ts)

/-! ## Segments -/

namespace Segment

@[simp] theorem depthAfter_unplaced (depth : Nat) (t : Token) :
    depthAfter depth t.unplaced = depthAfter depth t := rfl

@[simp] theorem balanceAfter_unplaced (depth : Int) (t : Token) :
    balanceAfter depth t.unplaced = balanceAfter depth t := rfl

/-- A row is cut alike wherever its tokens stand. -/
theorem rowFrom_unplaced (closer : Text) (last : Option Token) (depth : Nat)
    (taken ts : List Token) :
    rowFrom closer (last.map Token.unplaced) depth (taken.map Token.unplaced)
        (ts.map Token.unplaced) =
      (rowFrom closer last depth taken ts).unplacedBy (List.map (List.map Token.unplaced)) := by
  induction ts generalizing depth taken with
  | nil =>
      rw [List.map_nil, rowFrom, rowFrom]
      by_cases htaken : taken = []
      · simp [htaken, Reading.unplacedBy, ParseError.unplaced]
      · simp [htaken, Reading.unplacedBy, ParseError.unplaced]
  | cons t ts ih =>
      rw [List.map_cons, rowFrom, rowFrom, depthAfter_unplaced]
      cases hd : depthAfter depth t with
      | some d =>
          -- the segment at hand grows, so the induction is for all of them
          have := ih d (taken ++ [t])
          rw [List.map_append] at this
          exact this
      | none =>
          dsimp only
          rw [Token.unplaced_kind, Token.isDelimiter_unplaced]
          have hrest := ih 0 []
          rw [List.map_nil] at hrest
          by_cases htaken : taken = []
          · rw [if_pos (List.map_eq_nil_iff.2 htaken), if_pos htaken]
            rfl
          rw [if_neg (mt List.map_eq_nil_iff.1 htaken), if_neg htaken, hrest]
          split_ifs
          · cases rowFrom closer last 0 [] ts <;> rfl
          · rfl
          · rfl

/-- The contents of brackets are cut alike wherever they stand. -/
theorem row_blind (closer : Text) (last : Option Token) (ts : List Token) :
    row closer (last.map Token.unplaced) (ts.map Token.unplaced) =
      (row closer last ts).unplacedBy (List.map (List.map Token.unplaced)) := by
  cases ts with
  | nil => rfl
  | cons t ts =>
      rw [List.map_cons, row, row, Token.isDelimiter_unplaced]
      split_ifs
      · rfl
      · exact rowFrom_unplaced closer last 0 [] (t :: ts)

/-- What is sought outside the brackets is found at the same index. -/
theorem topLevelIndex?_unplaced {p : Token → Bool} (hp : ∀ t : Token, p t.unplaced = p t)
    (depth : Int) (ts : List Token) :
    topLevelIndex? p depth (ts.map Token.unplaced) = topLevelIndex? p depth ts := by
  induction ts generalizing depth with
  | nil => rfl
  | cons t ts ih =>
      rw [List.map_cons, topLevelIndex?, topLevelIndex?, hp, balanceAfter_unplaced, ih,
        Token.unplaced_kind]

end Segment

/-! ## Expressions -/

namespace Expression

/-- All segments are read alike if each is. -/
theorem mapM_blind {g : α → α} {f : List Token → Except ParseError α} (hf : BlindOn g f)
    (segments : List (List Token)) :
    (segments.map (List.map Token.unplaced)).mapM f =
      unplacedBy (List.map g) (segments.mapM f) := by
  induction segments with
  | nil => rfl
  | cons segment segments ih =>
      rw [List.map_cons, List.mapM_cons, List.mapM_cons, hf, ih]
      cases f segment with
      | error e => rfl
      | ok a => cases segments.mapM f <;> rfl

/-- Brackets are read alike if what is made of their parts is. -/
theorem enclosed_blind {f : List Token → Except ParseError α} {g : α → α} (hf : BlindOn g f)
    {make make' : List α → Node} (hmake : ∀ as, make' (as.map g) = (make as).unplaced)
    (closer : Text) (last : Option Token) (ts : List Token) :
    enclosed closer (fun segments => (segments.mapM f).map make') (last.map Token.unplaced)
        (ts.map Token.unplaced) =
      (enclosed closer (fun segments => (segments.mapM f).map make) last ts).unplacedBy
        Node.unplaced := by
  rw [enclosed, enclosed, Segment.row_blind]
  cases Segment.row closer last ts with
  | fail e rest => rfl
  | done segments rest =>
      simp only [Reading.unplacedBy, Reading.build, mapM_blind hf]
      cases segments.mapM f with
      | error e => rfl
      | ok as => simp only [unplacedBy, Except.map, hmake]

/-- A segment is read as a whole alike if its reader is blind. -/
theorem whole_blind {read : Reader Node} (h : read.Blind Node.unplaced) :
    BlindOn Node.unplaced (whole read) := by
  intro ts
  have hread := h ts.getLast? ts
  rw [whole, whole, List.getLast?_map, hread]
  cases read ts.getLast? ts with
  | fail e rest => rfl
  | done n rest => cases rest <;> rfl

/-- An entry with an arrow is read alike if its key and its value are. -/
theorem arrowEntry_blind {element : Element} (h : BlindOn Node.unplaced element) (first : Token)
    (segment : List Token) :
    arrowEntry element first.unplaced (segment.map Token.unplaced) =
      unplacedBy (Prod.map Node.unplaced Node.unplaced) (arrowEntry element first segment) := by
  rw [arrowEntry, arrowEntry,
    Segment.topLevelIndex?_unplaced fun t => Token.isOperator_unplaced t _]
  cases Segment.topLevelIndex? (·.isOperator ['=', '>']) 0 segment with
  | none => rfl
  | some i =>
      simp only [← List.map_take, ← List.map_drop, List.map_eq_nil_iff, List.getElem?_map, h _]
      split_ifs
      · rfl
      · cases element (segment.take i) with
        | error e => rfl
        | ok k => cases element (segment.drop (i + 1)) <;> rfl

/-- A keyword key is the same key wherever its name stands. -/
theorem keywordKey_unplaced (name : Token) :
    keywordKey name.unplaced = (keywordKey name).unplaced := by
  simp [keywordKey, Node.unplaced, Token.unplaced]

/-- An entry is read alike if its key and its value are. -/
theorem mapEntry_blind {element : Element} (h : BlindOn Node.unplaced element) :
    BlindOn (Prod.map Node.unplaced Node.unplaced) (mapEntry element) := by
  intro segment
  match segment with
  | [] => rfl
  | [only] => exact arrowEntry_blind h only [only]
  | first :: second :: value =>
      simp only [List.map_cons, mapEntry, Token.isKeywordKey_unplaced, Token.isOperator_unplaced,
        List.map_eq_nil_iff, h value]
      split_ifs
      · rfl
      · cases element value with
        | error e => rfl
        | ok v =>
            simp only [unplacedBy, Except.map, Prod.map, keywordKey_unplaced]
      · exact arrowEntry_blind h first (first :: second :: value)

/-- A call is read alike if its arguments are. -/
theorem call_blind {element : Element} (h : BlindOn Node.unplaced element) :
    (call element).Blind Node.unplaced := by
  intro last ts
  match ts with
  | [] => rfl
  | [_] => rfl
  | [_, _] => rfl
  | identifier :: dot :: opening :: rest =>
      have hmake : ∀ args : List Node,
          Node.call .anonCall identifier.unplaced (args.map Node.unplaced) =
            (Node.call .anonCall identifier args).unplaced := by
        intro args
        simp [Node.unplaced]
      rw [List.map_cons, List.map_cons, List.map_cons, call, call, Token.isDelimiter_unplaced]
      split_ifs
      · exact enclosed_blind h hmake _ last rest
      · rfl

/-- What starts with an identifier is read alike if its arguments are. -/
theorem identified_blind {element : Element} (h : BlindOn Node.unplaced element) :
    (identified element).Blind Node.unplaced := by
  intro last ts
  match ts with
  | [] => rfl
  | t :: rest =>
      have hdot : (rest.map Token.unplaced).head?.any isCallDot = rest.head?.any isCallDot := by
        cases rest <;> rfl
      rw [List.map_cons, identified, identified, hdot]
      split_ifs
      · exact call_blind h last (t :: rest)
      · rfl

/-- A collection is read alike if its elements are. -/
theorem elements_blind {element : Element} (h : BlindOn Node.unplaced element)
    (shape : Node.Shape) (closer : Text) :
    (elements shape closer element).Blind Node.unplaced :=
  enclosed_blind h (fun as => by simp [Node.unplaced]) closer

/-- A map is read alike if its elements are. -/
theorem hashMap_blind {element : Element} (h : BlindOn Node.unplaced element) :
    (hashMap element).Blind Node.unplaced := by
  intro last ts
  match ts with
  | [] => rfl
  | [_] => rfl
  | sign :: opening :: rest =>
      have hmake : ∀ entries : List (Node × Node),
          mapOfEntries (entries.map (Prod.map Node.unplaced Node.unplaced)) =
            (mapOfEntries entries).unplaced := by
        intro entries
        simp [mapOfEntries, Node.unplaced]
      rw [List.map_cons, List.map_cons, hashMap, hashMap, Token.isDelimiter_unplaced]
      split_ifs
      · exact enclosed_blind (mapEntry_blind h) hmake _ last rest
      · rfl

/-- What starts with a delimiter is read alike if its elements are. -/
theorem delimited_blind {element : Element} (h : BlindOn Node.unplaced element) :
    (delimited element).Blind Node.unplaced := by
  intro last ts
  match ts with
  | [] => rfl
  | t :: rest =>
      rw [List.map_cons, delimited, delimited, Token.unplaced_lexeme]
      split_ifs
      · exact elements_blind h .list _ last rest
      · exact elements_blind h .tuple _ last rest
      · exact hashMap_blind h last (t :: rest)
      · rfl

/-- An attribute is read alike if its value is. -/
theorem moduleAttribute_blind {value : Reader Node} (h : value.Blind Node.unplaced) :
    (moduleAttribute value).Blind Node.unplaced := by
  intro last ts
  match ts with
  | [] => rfl
  | [_] => rfl
  | sign :: name :: rest =>
      simp only [List.map_cons, moduleAttribute]
      by_cases hname : name.kind = .identifier
      · rw [if_pos (name.unplaced_kind.trans hname), if_pos hname, h last rest]
        cases value last rest with
        | fail e r => rfl
        | done v r => simp [Reading.map, Reading.unplacedBy, Node.unplaced]
      · rw [if_neg (name.unplaced_kind ▸ hname), if_neg hname]
        rfl

/-- An expression is read alike if its parts are. -/
theorem term_blind {value : Reader Node} {element : Element} (hvalue : value.Blind Node.unplaced)
    (helement : BlindOn Node.unplaced element) : (term value element).Blind Node.unplaced := by
  intro last ts
  match ts with
  | [] => rfl
  | t :: rest =>
      cases ht : t.kind
      all_goals simp only [List.map_cons, term, Token.unplaced_kind, ht, literalForm?]
      case atSign => exact moduleAttribute_blind hvalue last (t :: rest)
      case identifier => exact identified_blind helement last (t :: rest)
      case delimiter => exact delimited_blind helement last (t :: rest)
      case number | boolean | atom | string | charlist =>
        simp [Reading.unplacedBy, Node.unplaced]
      all_goals rfl

/-- Expressions are read alike wherever they stand. -/
theorem expression_blind (room : Nat) : (expression room).Blind Node.unplaced := by
  induction room using Nat.strongRecOn with
  | ind room ih =>
      -- an attribute leaves one less room, brackets three less
      match room with
      | 0 => exact fun last ts => rfl
      | room + 1 =>
          rw [expression_succ]
          refine term_blind (ih room (by omega)) ?_
          match room with
          | 0 => exact fun ts => rfl
          | 1 => exact fun ts => rfl
          | inner + 2 => exact whole_blind (ih inner (by omega))

end Expression

/-! ## Programs -/

namespace Program

/-- Programs are read alike wherever they stand. -/
theorem expressions_blind (last : Option Token) (ts : List Token) :
    expressions (last.map Token.unplaced) (ts.map Token.unplaced) =
      (expressions last ts).unplacedBy (List.map Node.unplaced) := by
  match ts with
  | [] => rw [List.map_nil, expressions, expressions]; rfl
  | t :: us =>
      have htop := Expression.expression_blind (Expression.nestingLimit + 1) last (t :: us)
      rw [List.map_cons] at htop ⊢
      rw [expressions_cons, expressions_cons, Expression.top, htop]
      cases hread : Expression.expression (Expression.nestingLimit + 1) last (t :: us) with
      | fail e rest => rfl
      | done n rest =>
          simp only [Reading.unplacedBy]
          rw [expressions_blind last rest]
          cases expressions last rest <;> rfl
termination_by ts.length
decreasing_by exact Expression.length_rest_lt_of_top ‹_›

/-- Significant tokens stay significant. -/
theorem significant_unplaced (ts : List Token) :
    significant (ts.map Token.unplaced) = (significant ts).map Token.unplaced := by
  rw [significant, significant, List.filter_map]
  rfl

/-- Tokens taken from their places parse to the nodes taken from their places, or to the same
error. -/
theorem parse_unplaced (ts : List Token) :
    parse (ts.map Token.unplaced) = unplacedBy (List.map Node.unplaced) (parse ts) := by
  simp only [parse, significant_unplaced, List.getLast?_map]
  rw [expressions_blind, Reading.outcome_unplacedBy]

end Program

end ElixirTerms
