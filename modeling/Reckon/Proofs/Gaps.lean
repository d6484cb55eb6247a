import Reckon.Calculation
import Reckon.Proofs.Report

/-! The characters between the tokens of a line. What of them there is does not matter, as long as
two numbers or two words stay apart: the line has the same tokens in other places, and no value and
no reason of an error depends on the places. -/
namespace Reckon

namespace Token

/-- No token is made of any of the characters. -/
def Skipped (between : List Char) : Prop := ∀ c ∈ between, isAccepted c = false

/-- `Lays last shown cs`: the text has the lexemes of the faces one after another, with skipped
characters in front of each and at the end, and at least one of them between two numbers and
between two words. A token of the kind `last`, if any, is in front of the text. -/
inductive Lays : Option Kind → List Face → List Char → Prop where
  | nil : Skipped between → Lays last [] between
  | cons {kind : Kind} {lexeme : String} : Skipped between →
      (last = some kind → kind ≠ .operator → between ≠ []) → Lays (some kind) shown rest →
      Lays last ((kind, lexeme) :: shown) (between ++ (lexeme.toList ++ rest))

/-- An operator, or a run of one class. -/
structure Face.Formed (shown : Face) : Prop where
  given : shown.2.toList ≠ []
  inside : ∀ c ∈ shown.2.toList, shown.1.accepts c = true
  single : shown.1 = .operator → shown.2.toList.length = 1

variable {kind : Kind} {lexeme : String} {last : Option Kind} {shown : List Face}
  {between rest : List Char}

theorem faces_formed (cs : List Char) : ∀ shown ∈ faces cs, Face.Formed shown := by
  intro shown member
  obtain ⟨token, within, rfl⟩ := List.mem_map.1 member
  have stands := (scanFrom_exhausts 1 cs).stands token within
  exact ⟨by simpa [face] using stands.nonempty, stands.scanned.accepts,
    stands.scanned.length_operator⟩

theorem Face.Formed.faces_eq (formed : Face.Formed (kind, lexeme)) :
    faces lexeme.toList = [(kind, lexeme)] := by
  by_cases operator : kind = .operator
  · subst operator
    obtain ⟨c, one⟩ := List.length_eq_one_iff.1 (formed.single rfl)
    have known : isOperator c = true := formed.inside c (by simp [one])
    have lexeme : lexeme.toList = [c] := one
    rw [lexeme, faces_operator known, faces_nil, ← lexeme, String.ofList_toList]
  · simpa using faces_whole kind operator formed.given formed.inside

theorem faces_between (skipped : Skipped between) (cs : List Char) :
    faces (between ++ cs) = faces cs := by
  induction between with
  | nil => rfl
  | cons c between ih =>
    obtain ⟨first, more⟩ := List.forall_mem_cons.1 skipped
    rw [List.cons_append, faces_skipped first, ih more]

theorem Lays.apart (lays : Lays (some kind) shown rest) (formed : ∀ face ∈ shown, Face.Formed face)
    (inside : ∀ c ∈ before, kind.accepts c = true) : Apart before rest := by
  intro other c d proper final first accepts
  obtain rfl : other = kind := accepts_unique accepts (inside c (List.mem_of_getLast? final))
  apply Bool.eq_false_iff.2
  intro next
  have accepted : isAccepted d = true := isAccepted_iff.2 ⟨other, next⟩
  cases lays with
  | nil skipped => simp [skipped d (List.mem_of_head? first)] at accepted
  | @cons between _ shown rest kind lexeme skipped needed =>
    cases between with
    | nil =>
      have run := formed (kind, lexeme) List.mem_cons_self
      obtain ⟨e, es, split⟩ := List.exists_cons_of_ne_nil run.given
      have lexeme : lexeme.toList = e :: es := split
      obtain rfl : e = d := by simpa [lexeme] using first
      obtain rfl : other = kind := accepts_unique next (run.inside e (by simp [split]))
      exact needed rfl proper rfl
    | cons e between =>
      obtain rfl : e = d := by simpa using first
      simp [skipped e (by simp)] at accepted

/-- A text that lays out faces is scanned as these. -/
theorem Lays.faces_eq (lays : Lays last shown rest) (formed : ∀ face ∈ shown, Face.Formed face) :
    faces rest = shown := by
  induction lays with
  | nil skipped => simpa using faces_between skipped []
  | cons skipped _ lays ih =>
    obtain ⟨first, more⟩ := List.forall_mem_cons.1 formed
    rw [faces_between skipped, faces_append (lays.apart more first.inside), first.faces_eq, ih more]
    rfl

theorem Lays.skip (skipped : isAccepted c = false) (lays : Lays none shown rest) :
    Lays last shown (c :: rest) := by
  cases lays with
  | nil between => exact .nil (List.forall_mem_cons.2 ⟨skipped, between⟩)
  | cons between _ more =>
    exact .cons (List.forall_mem_cons.2 ⟨skipped, between⟩) (by simp) more

/-- Every text lays out the faces that scanning finds in it. -/
theorem faces_lays (cs : List Char)
    (apart : ∀ kind c, last = some kind → kind ≠ .operator → cs.head? = some c →
      kind.accepts c = false) : Lays last (faces cs) cs := by
  -- A run is taken off whole, so the induction is on the length. The character that ends it keeps
  -- it apart from what follows.
  induction size : cs.length using Nat.strongRecOn generalizing cs last with
  | ind n ih =>
    cases cs with
    | nil => simpa using Lays.nil (by simp [Skipped])
    | cons c cs =>
      by_cases accepted : isAccepted c = true
      · obtain ⟨kind, first⟩ := isAccepted_iff.1 accepted
        have needed : last = some kind → kind ≠ .operator → ([] : List Char) ≠ [] := by
          intro same proper
          simp [apart kind c same proper rfl] at first
        have nothing : Skipped [] := by simp [Skipped]
        by_cases operator : kind = .operator
        · subst operator
          have more : Lays (some .operator) (faces cs) cs := by
            refine ih cs.length (by simp [← size]) cs ?_ rfl
            rintro _ _ ⟨⟩ proper
            exact absurd rfl proper
          have all : Lays last ((.operator, String.ofList [c]) :: faces cs) _ :=
            .cons nothing needed more
          simpa [faces_operator first] using all
        · have fewer := length_dropWhile_lt kind.accepts c cs
          have more : Lays (some kind) (faces (cs.dropWhile kind.accepts))
              (cs.dropWhile kind.accepts) := by
            refine ih _ (size ▸ fewer) _ ?_ rfl
            rintro _ d ⟨⟩ _ head
            exact head_dropWhile kind.accepts cs d head
          have all : Lays last ((kind, String.ofList (c :: cs.takeWhile kind.accepts)) :: _) _ :=
            .cons nothing needed more
          simpa [faces_run operator first] using all
      · have skipped := Bool.eq_false_iff.2 accepted
        have more : Lays none (faces cs) cs := ih cs.length (by simp [← size]) cs (by simp) rfl
        rw [faces_skipped skipped]
        exact more.skip skipped

/-- The token without its place. -/
def unplaced (token : Token) : Token := { token with position := 0 }

theorem forall₂_unplaced_iff {tokens tokens' : List Token} :
    List.Forall₂ (fun token token' => token.unplaced = token'.unplaced) tokens tokens' ↔
      tokens.map unplaced = tokens'.map unplaced := by
  rw [← List.forall₂_eq_eq_eq, List.forall₂_map_left_iff, List.forall₂_map_right_iff]

theorem Scanned.unplaced_eq {line : Int} (scanned : Scanned line token) :
    token.unplaced = ⟨token.face.1, token.face.2, line, 0, false⟩ := by
  cases scanned <;> rfl

theorem unplaced_scan (line : Int) {code code' : String}
    (same : faces code.toList = faces code'.toList) :
    (scan line code).map unplaced = (scan line code').map unplaced := by
  have build (code : String) : (scan line code).map unplaced =
      (faces code.toList).map fun shown => ⟨shown.1, shown.2, line, 0, false⟩ := by
    rw [← face_scan line code, List.map_map]
    exact List.map_congr_left fun token member => (scan_scanned line code token member).unplaced_eq
  rw [build, build, same]

end Token

/-- Two results that differ in the places of tokens at most: values of the one are what the relation
says they are, and errors of one class have the same reason. A reading error also has the same
index and message. -/
inductive Alike (R : α → β → Prop) : Except Failure α → Except Failure β → Prop where
  | ok : R a b → Alike R (.ok a) (.ok b)
  | token : e.reason = e'.reason → Alike R (.error (.token e)) (.error (.token e'))
  | reading : e.reason = e'.reason → e.index = e'.index → e.message = e'.message →
      Alike R (.error (.reading e)) (.error (.reading e'))
  | same {failure : Failure} : Alike R (.error failure) (.error failure)

theorem Alike.bind {next : α → Except Failure γ} {next' : β → Except Failure δ}
    (first : Alike R x y) (second : ∀ a b, R a b → Alike S (next a) (next' b)) :
    Alike S (x >>= next) (y >>= next') := by
  cases first with
  | ok related => exact second _ _ related
  | token reason => exact .token reason
  | reading reason index message => exact .reading reason index message
  | same => exact .same

theorem Alike.refl (result : Except Failure α) : Alike Eq result result := by
  cases result with
  | ok a => exact .ok rfl
  | error failure => exact .same

theorem Alike.mapM {f : α → Except Failure γ} {g : β → Except Failure δ}
    (each : ∀ a b, R a b → Alike S (f a) (g b)) (related : List.Forall₂ R l l') :
    Alike (List.Forall₂ S) (l.mapM f) (l'.mapM g) := by
  induction related with
  | nil => exact .ok .nil
  | cons here _ ih =>
    rw [List.mapM_cons, List.mapM_cons]
    exact .bind (each _ _ here) fun c d first => .bind ih fun cs ds more => .ok (.cons first more)

namespace Token

/-- What a token is resolved to, or the reason why it is not, does not depend on its place. -/
theorem resolve_alike (same : token.unplaced = token'.unplaced) (code code' : String) :
    Alike (fun settled settled' => settled.unplaced = settled'.unplaced)
      (resolve code token) (resolve code' token') := by
  obtain ⟨kind, lexeme, line, place, resolved⟩ := token
  obtain ⟨kind', lexeme', line', place', resolved'⟩ := token'
  simp only [unplaced, mk.injEq, true_and] at same
  obtain ⟨rfl, rfl, rfl, rfl⟩ := same
  cases resolved with
  | true => exact .ok rfl
  | false =>
    cases kind with
    | number =>
      simp only [resolve, Bool.false_eq_true, reduceIte]
      cases resolveNumber? lexeme with
      | none => exact .token rfl
      | some found => exact .ok rfl
    | word =>
      simp only [resolve, Bool.false_eq_true, reduceIte]
      cases keyword? lexeme with
      | none => exact .token rfl
      | some found => exact .ok rfl
    | operator =>
      simp only [resolve, Bool.false_eq_true, reduceIte]
      cases lexemeOperator? lexeme with
      | none => exact .same
      | some found => exact .ok rfl
    | _ => exact .ok rfl

/-- Lines with the same lexemes are tokenized alike. -/
theorem tokenize_alike (line : Int) {code code' : String}
    (same : faces code.toList = faces code'.toList) :
    Alike (List.Forall₂ fun token token' => token.unplaced = token'.unplaced)
      (tokenize line code) (tokenize line code') := by
  refine .mapM (fun _ _ here => resolve_alike here code code') ?_
  exact forall₂_unplaced_iff.2 (unplaced_scan line same)

end Token

namespace Reading
open Token (unplaced)

variable {precision : Precision} {tokens tokens' rest : List Token}

/-- What was read, and what is left of the tokens without their places. -/
def unplacedRest (found : Expr × List Token) : Expr × List Token :=
  (found.1, found.2.map unplaced)

theorem bind_unplaced {x : Except Stop (Expr × List Token)}
    {next next' : Expr × List Token → Except Stop (Expr × List Token)}
    (same : ∀ found, x = .ok found → next (unplacedRest found) = (next' found).map unplacedRest) :
    x.map unplacedRest >>= next = (x >>= next').map unplacedRest := by
  cases x with
  | error stop => rfl
  | ok found => exact same found rfl

theorem close_unplaced (kind : Token.Kind) (cause : Cause) (tree : Expr) (rest : List Token) :
    close kind cause tree (rest.map unplaced) = (close kind cause tree rest).map unplacedRest := by
  cases rest with
  | nil => rfl
  | cons token rest =>
    by_cases closes : token.kind = kind <;>
      simp [close, unplaced, closes, unplacedRest]

theorem readLiteral_unplaced (literal : Except Fault Value) (rest : List Token) :
    readLiteral (rest.map unplaced) literal = (readLiteral rest literal).map unplacedRest := by
  cases literal <;> rfl

theorem extend_unplaced (first : Expr)
    (chains : ∀ later, later.length < rest.length →
      readChain precision (later.map unplaced) = (readChain precision later).map unplacedRest) :
    extend precision first (rest.map unplaced) =
      (extend precision first rest).map unplacedRest := by
  cases rest with
  | nil => rfl
  | cons sign later =>
    have kind : (unplaced sign).kind = sign.kind := rfl
    cases known : Operator.ofKind? sign.kind with
    | none => simp only [List.map_cons, extend, kind, known]; rfl
    | some operator =>
      simp only [List.map_cons, extend, kind, known]
      rw [chains later (by simp)]
      exact bind_unplaced fun _ _ => rfl

theorem readFrom_unplaced (token : Token)
    (chains : ∀ later, later.length ≤ rest.length →
      readChain precision (later.map unplaced) = (readChain precision later).map unplacedRest)
    (operand : readOperand precision (rest.map unplaced) =
      (readOperand precision rest).map unplacedRest) :
    readFrom precision token.unplaced (rest.map unplaced) =
      (readFrom precision token rest).map unplacedRest := by
  have here := chains rest (Nat.le_refl _)
  have kind : (unplaced token).kind = token.kind := rfl
  have lexeme : (unplaced token).lexeme = token.lexeme := rfl
  simp only [readFrom, kind, lexeme, List.length_map]
  cases opening token.kind with
  | group | bars =>
    simp only [here]
    exact bind_unplaced fun _ _ => close_unplaced ..
  | negation =>
    simp only [operand]
    exact bind_unplaced fun _ _ => rfl
  | unary name =>
    simp only [here]
    exact bind_unplaced fun _ _ => rfl
  | function name =>
    simp only [here]
    refine bind_unplaced fun first read => ?_
    have more := chains first.2 (Nat.le_of_lt (readChain_shorter read))
    simp only [unplacedRest, more]
    exact bind_unplaced fun _ _ => rfl
  | integer | decimal => exact readLiteral_unplaced ..
  | constant | finish | stray => rfl

/-- What a chain and an operand take from the tokens does not depend on their places. -/
theorem reading_unplaced (precision : Precision) : ∀ tokens,
    readChain precision (tokens.map unplaced) = (readChain precision tokens).map unplacedRest ∧
      readOperand precision (tokens.map unplaced) =
        (readOperand precision tokens).map unplacedRest := by
  apply reading_induction
  case chain =>
    intro tokens operand shorter
    rw [readChain_eq, readChain_eq, operand]
    refine bind_unplaced fun first read => extend_unplaced first.1 fun later fewer => ?_
    exact shorter later (fewer.trans (readOperand_shorter read))
  case operand =>
    intro tokens shorter
    cases tokens with
    | nil => rw [List.map_nil, readOperand_nil]; rfl
    | cons token rest =>
      rw [List.map_cons, readOperand_cons, readOperand_cons]
      refine readFrom_unplaced token ?_ (shorter rest (Nat.lt_succ_self _)).2
      exact fun later fewer => (shorter later (Nat.lt_succ_of_le fewer)).1

/-- The trees that tokens are read as do not depend on their places. -/
theorem program_unplaced (precision : Precision) (tokens : List Token) :
    program precision (tokens.map unplaced) = program precision tokens := by
  induction size : tokens.length using Nat.strongRecOn generalizing tokens with
  | ind n ih =>
    cases tokens with
    | nil => rfl
    | cons token rest =>
      have chain := (reading_unplaced precision (token :: rest)).1
      rw [List.map_cons] at chain ⊢
      rw [program_cons, program_cons, chain]
      cases read : readChain precision (token :: rest) with
      | error stop => rfl
      | ok first =>
        have more := ih first.2.length (size ▸ readChain_shorter read) first.2 rfl
        simp only [map_ok, ok_bind, unplacedRest, more]

theorem render_unplaced (same : tokens.map unplaced = tokens'.map unplaced) :
    Token.render tokens = Token.render tokens' := by
  have kept : Token.face ∘ unplaced = Token.face := rfl
  apply Token.render_congr
  simpa only [List.map_map, kept] using congrArg (List.map Token.face) same

/-- The error of a refusal says the same wherever the tokens stand. -/
theorem failure_alike {R : α → β → Prop} (same : tokens.map unplaced = tokens'.map unplaced)
    (stop : Stop) : Alike R (.error (failure tokens stop)) (.error (failure tokens' stop)) := by
  cases stop with
  | fault f => exact .same
  | refused cause remaining =>
    have length : tokens.length = tokens'.length := by simpa using congrArg List.length same
    have before (index : Nat) :
        (tokens.take index).map unplaced = (tokens'.take index).map unplaced := by
      rw [List.map_take, same, List.map_take]
    have line (index : Nat) : (tokens.take index).getLast?.map Token.line =
        (tokens'.take index).getLast?.map Token.line := by
      have kept : Token.line ∘ unplaced = Token.line := rfl
      simpa only [List.getLast?_map, Option.map_map, kept] using
        congrArg (fun shown => shown.getLast?.map Token.line) (before index)
    refine .reading rfl (congrArg (· - remaining) length) ?_
    rw [Error.message_eq, Error.message_eq, length, line, render_unplaced same,
      render_unplaced (before _)]
    rfl

theorem program_alike (precision : Precision)
    (same : tokens.map unplaced = tokens'.map unplaced) :
    Alike Eq ((program precision tokens).mapError (failure tokens))
      ((program precision tokens').mapError (failure tokens')) := by
  rw [← program_unplaced precision tokens', ← same, program_unplaced]
  cases program precision tokens with
  | ok trees => exact .ok rfl
  | error stop => exact failure_alike same stop

theorem read_alike (precision : Precision)
    (same : List.Forall₂ (fun token token' => unplaced token = unplaced token') tokens tokens') :
    Alike Eq (Reading.read precision tokens) (Reading.read precision tokens') := by
  refine .bind (.mapM (fun _ _ here => Token.resolve_alike here "" "") same) ?_
  intro resolved resolved' same'
  exact program_alike precision (Token.forall₂_unplaced_iff.1 same')

end Reading

namespace Calculation
open Token (Lays face faces scan)

/-- A line with other skipped characters around its lexemes ends as the line does, as long as two
numbers and two words stay apart. -/
theorem calculate_respaced (precision : Precision) {code code' : String}
    (lays : Lays none ((scan 1 code).map face) code'.toList) :
    Lays none ((scan 1 code).map face) code.toList ∧
      Alike Eq (calculate precision code) (calculate precision code') := by
  rw [Token.face_scan] at lays ⊢
  refine ⟨Token.faces_lays code.toList (by simp), ?_⟩
  have same := lays.faces_eq (Token.faces_formed code.toList)
  refine .bind (Token.tokenize_alike 1 same.symm) fun tokens tokens' moved => ?_
  refine .bind (Reading.read_alike precision moved) ?_
  rintro trees _ rfl
  exact .refl _

/-- A blank can go between a word and a number, and a comma can stand for one between two
numbers. -/
theorem calculate_respaced_comma :
    Lays none ((scan 1 "log 2 8").map face) "log2,8;".toList ∧
    Lays none ((scan 1 "log 2 8").map face) "log 2 8".toList ∧
    Alike Eq (calculate none "log 2 8") (calculate none "log2,8;") := by
  have shown : (scan 1 "log 2 8").map face = [(.word, "log"), (.number, "2"), (.number, "8")] := by
    decide +kernel
  have nothing : Token.Skipped [] := by simp [Token.Skipped]
  have comma : Token.Skipped [','] := List.forall_mem_singleton.2 (by decide +kernel)
  have semicolon : Token.Skipped [';'] := List.forall_mem_singleton.2 (by decide +kernel)
  have lays : Lays none ((scan 1 "log 2 8").map face) "log2,8;".toList := by
    rw [shown]
    exact .cons nothing (by simp) (.cons nothing (by simp) (.cons comma (by simp) (.nil semicolon)))
  exact ⟨lays, calculate_respaced none lays⟩

end Calculation
end Reckon
