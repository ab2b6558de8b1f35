/-
# The text of canonical source

How canonical source is put together from the source of its parts, and that neither it nor the
shapes that it does not keep depend on where tokens stand.
-/
import ElixirTerms.Proofs.Canonical.Shapes
import ElixirTerms.Proofs.Grammar.Basic

namespace ElixirTerms

/-! ## Separators -/

namespace Text

/-- Parts are separated by a comma and a space. -/
theorem commaSeparated_cons (s : Text) {parts : List Text} (h : parts ≠ []) :
    commaSeparated (s :: parts) = s ++ ',' :: ' ' :: commaSeparated parts := by
  cases parts with
  | nil => exact absurd rfl h
  | cons t parts => rw [commaSeparated, commaSeparated, List.intercalate_cons_cons]; simp

/-- Lines are separated by a newline. -/
theorem joinLines_cons (s : Text) {parts : List Text} (h : parts ≠ []) :
    joinLines (s :: parts) = s ++ '\n' :: joinLines parts := by
  cases parts with
  | nil => exact absurd rfl h
  | cons t parts => rw [joinLines, joinLines, List.intercalate_cons_cons]; simp

end Text

namespace Node

/-! ## Entries -/

/-- A key that is an atom is written as its name and a colon. -/
theorem keySource_of_atom {key : Node} {s : Text} (h : key.atomLexeme? = some s) (source : Text) :
    keySource key source = atomName s ++ [':', ' '] := by
  obtain ⟨kind, t, rfl, rfl⟩ := atomLexeme?_eq_some h
  rfl

/-- Any other key is written as it is, with an arrow. -/
theorem keySource_of_not_atom {key : Node} (h : key.atomLexeme? = none) (source : Text) :
    keySource key source = source ++ [' ', '=', '>', ' '] := by
  unfold keySource
  split
  · cases h
  · rfl

/-- How an entry is written. -/
def entrySource (entry : Node × Node) : Text :=
  keySource entry.1 entry.1.source ++ entry.2.source

/-- The entries of a map are written one after the other. -/
theorem source_hashMap (kind : Kind) (keys values : List Node) :
    (hashMap kind keys values).source =
      '%' :: '\x7b' :: (Text.commaSeparated ((keys.zip values).map entrySource) ++ ['\x7d']) := by
  have hentries : List.zipWith (· ++ ·) (List.zipWith keySource keys (keys.map source))
      (values.map source) = (keys.zip values).map entrySource := by
    induction keys generalizing values with
    | nil => rfl
    | cons key keys ih =>
        cases values with
        | nil => rfl
        | cons value values =>
            simp only [List.map_cons, List.zipWith_cons_cons, List.zip_cons_cons, ih]
            rfl
  rw [source, hentries]
  simp

/-! ## Nodes -/

/-- An attribute is written with its sign and a space. -/
theorem source_moduleAttribute (kind : Kind) (t : Token) (v : Node) :
    (moduleAttribute kind t v).source = '@' :: (t.lexeme ++ ' ' :: v.source) := by
  simp [source]

/-- A call is written with a dot and its arguments in brackets. -/
theorem source_call (kind : Kind) (t : Token) (args : List Node) :
    (call kind t args).source =
      t.lexeme ++ '.' :: '(' :: (Text.commaSeparated (args.map source) ++ [')']) := by
  simp [source]

/-- A collection is written with its elements in brackets. -/
theorem source_collection (shape : Shape) (kind : Kind) (es : List Node) :
    (collection shape kind es).source =
      Grammar.opener shape ++ (Text.commaSeparated (es.map source) ++ Grammar.closer shape) := by
  cases shape <;> simp [source, Shape.enclose, Grammar.opener, Grammar.closer]

/-! ## Nodes taken from their places -/

@[simp] theorem atomLexeme?_unplaced (n : Node) : n.unplaced.atomLexeme? = n.atomLexeme? := by
  cases n with
  | literal form kind t => rw [unplaced]; cases form <;> rfl
  | missing | bare _ | call _ _ _ | moduleAttribute _ _ _ | collection _ _ _ | hashMap _ _ _ =>
      simp [unplaced, atomLexeme?]

/-- A key is written alike wherever it stood. -/
theorem keySource_unplaced (key : Node) (source : Text) :
    keySource key.unplaced source = keySource key source := by
  cases h : key.atomLexeme? with
  | none => rw [keySource_of_not_atom h, keySource_of_not_atom (key.atomLexeme?_unplaced.trans h)]
  | some s => rw [keySource_of_atom h, keySource_of_atom (key.atomLexeme?_unplaced.trans h)]

/-- A node is written alike wherever it stood. -/
theorem source_unplaced (n : Node) : n.unplaced.source = n.source := by
  induction n using Node.induction with
  | missing => simp [unplaced, source]
  | bare k => simp [unplaced, source]
  | literal form k t => simp [unplaced, source, Token.unplaced]
  | call k t args ih =>
      have hargs : args.map (source ∘ unplaced) = args.map source := List.map_congr_left ih
      simp [unplaced, source, Token.unplaced, hargs]
  | moduleAttribute k t v ih => simp [unplaced, source, Token.unplaced, ih]
  | collection shape k es ih =>
      have hes : es.map (source ∘ unplaced) = es.map source := List.map_congr_left ih
      simp [unplaced, source, hes]
  | hashMap k keys values ihkeys ihvalues =>
      -- only the entries of the map are written, so only for them are the hypotheses needed
      rw [unplaced, source_hashMap, source_hashMap, List.zip_map, List.map_map]
      have hentries : (keys.zip values).map (entrySource ∘ Prod.map unplaced unplaced) =
          (keys.zip values).map entrySource := by
        refine List.map_congr_left fun entry hentry => ?_
        obtain ⟨hkey, hvalue⟩ := List.of_mem_zip (show (entry.1, entry.2) ∈ _ from hentry)
        simp [entrySource, keySource_unplaced, ihkeys _ hkey, ihvalues _ hvalue]
      rw [hentries]

/-- A program is written alike wherever it stood. -/
theorem programSource_unplaced (ns : List Node) :
    programSource (ns.map unplaced) = programSource ns := by
  have hlines : ns.map (source ∘ unplaced) = ns.map source :=
    List.map_congr_left fun n _ => source_unplaced n
  rw [programSource, programSource, List.map_map, hlines]

@[simp] theorem faithfulKey_unplaced (key : Node) :
    key.unplaced.FaithfulKey ↔ key.FaithfulKey := by
  simp [FaithfulKey, IsAliasKey, IsSingleQuotedKey, IsDigitKey]

/-- A node is faithful wherever it stood. -/
theorem faithful_unplaced (n : Node) : n.unplaced.Faithful ↔ n.Faithful := by
  induction n using Node.induction with
  | missing => simp [unplaced]
  | bare k => simp [unplaced]
  | literal form k t =>
      rw [unplaced, faithful_literal, faithful_literal]
      cases form <;> rfl
  | call k t args ih =>
      rw [unplaced, faithful_call, faithful_call, List.forall_mem_map]
      exact forall₂_congr ih
  | moduleAttribute k t v ih =>
      rw [unplaced, faithful_moduleAttribute, faithful_moduleAttribute, ih]
  | collection shape k es ih =>
      rw [unplaced, faithful_collection, faithful_collection, List.forall_mem_map]
      exact forall₂_congr ih
  | hashMap k keys values ihkeys ihvalues =>
      rw [unplaced, faithful_hashMap, faithful_hashMap, List.zip_map, List.forall_mem_map]
      refine forall₂_congr fun entry hentry => ?_
      obtain ⟨hkey, hvalue⟩ := List.of_mem_zip (show (entry.1, entry.2) ∈ _ from hentry)
      simp only [Prod.map_fst, Prod.map_snd, faithfulKey_unplaced, ihkeys _ hkey,
        ihvalues _ hvalue]

end Node

end ElixirTerms
