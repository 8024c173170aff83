import SchemaScript.Proofs.AlterStatement

/-! Statements built by additions in any order. Each addition offers a clause or a trailing
statement, or has nothing to offer. Clauses and trailers are collected apart, so a statement is fixed
by the clauses that were offered and by the trailers that were, each in their order: it is the same
without the empty additions, and with every clause in front of every trailer. -/

namespace SchemaScript.AlterStatement

inductive Addition where
  | clause (offer : Option String)
  | trailer (offer : Option String)

namespace Addition

def offer : Addition → Option String
  | clause offer => offer
  | trailer offer => offer

def isClause : Addition → Bool
  | clause _ => true
  | trailer _ => false

def clause? : Addition → Option String
  | clause offer => offer
  | trailer _ => none

def trailer? : Addition → Option String
  | clause _ => none
  | trailer offer => offer

def apply (s : AlterStatement) : Addition → AlterStatement
  | clause offer => s.addClause offer
  | trailer offer => s.addTrailer offer

theorem apply_eq (s : AlterStatement) (addition : Addition) :
    addition.apply s = { s with
      clauses := s.clauses ++ addition.clause?.toList,
      trailers := s.trailers ++ addition.trailer?.toList } := by
  cases addition with
  | clause offer => simp [apply, addClause, clause?, trailer?]
  | trailer offer => simp [apply, addTrailer, clause?, trailer?]

theorem offer_eq_none_iff {addition : Addition} :
    addition.offer = none ↔ addition.clause? = none ∧ addition.trailer? = none := by
  cases addition <;> simp [Addition.offer, clause?, trailer?]

end Addition

/-! ### What is collected -/

/-- The clauses that are offered, in the order of the additions. -/
def clausesOf (additions : List Addition) : List String := additions.filterMap Addition.clause?

def trailersOf (additions : List Addition) : List String := additions.filterMap Addition.trailer?

def build (header separator : String) (additions : List Addition) : AlterStatement :=
  additions.foldl Addition.apply { header, separator }

theorem foldl_apply (s : AlterStatement) (additions : List Addition) :
    additions.foldl Addition.apply s = { s with
      clauses := s.clauses ++ clausesOf additions,
      trailers := s.trailers ++ trailersOf additions } := by
  induction additions generalizing s with
  | nil => simp [clausesOf, trailersOf]
  | cons addition rest ih =>
    have hcons : ∀ offers : Addition → Option String,
        (addition :: rest).filterMap offers = (offers addition).toList ++ rest.filterMap offers := by
      intro offers
      rw [List.filterMap_cons]
      cases offers addition <;> rfl
    rw [List.foldl_cons, ih, Addition.apply_eq, clausesOf, trailersOf, clausesOf, trailersOf, hcons,
      hcons, List.append_assoc, List.append_assoc]

theorem build_eq (header separator : String) (additions : List Addition) :
    build header separator additions =
      ⟨header, separator, clausesOf additions, trailersOf additions⟩ := by
  rw [build, foldl_apply, List.nil_append, List.nil_append]

theorem isEmpty_build (header separator : String) (additions : List Addition) :
    (build header separator additions).isEmpty = additions.all (·.offer.isNone) := by
  rw [Bool.eq_iff_iff, build_eq, isEmpty, Bool.and_eq_true, List.isEmpty_iff, List.isEmpty_iff,
    clausesOf, trailersOf, List.filterMap_eq_nil_iff, List.filterMap_eq_nil_iff, List.all_eq_true]
  simp only [Option.isNone_iff_eq_none, Addition.offer_eq_none_iff]
  constructor
  · rintro ⟨hclauses, htrailers⟩ addition hmem
    exact ⟨hclauses addition hmem, htrailers addition hmem⟩
  · intro h
    exact ⟨fun addition hmem => (h addition hmem).1, fun addition hmem => (h addition hmem).2⟩

/-! ### The order of the additions -/

/-- The additions that have something to offer, those of clauses in front. -/
def inOrder (additions : List Addition) : List Addition :=
  let offering := additions.filter (·.offer.isSome)
  offering.filter (·.isClause) ++ offering.filter (!·.isClause)

section

variable {kept : Addition → Bool} {offers : Addition → Option String}

theorem filterMap_filter_of_kept (h : ∀ addition, kept addition = false → offers addition = none)
    (additions : List Addition) :
    (additions.filter kept).filterMap offers = additions.filterMap offers := by
  rw [List.filterMap_filter]
  congr 1
  funext addition
  split
  next => rfl
  next hkept => exact (h addition (by simpa using hkept)).symm

theorem filterMap_filter_eq_nil (h : ∀ addition, kept addition = true → offers addition = none)
    (additions : List Addition) : (additions.filter kept).filterMap offers = [] := by
  rw [List.filterMap_eq_nil_iff]
  intro addition hmem
  exact h addition (List.mem_filter.1 hmem).2

end

theorem clausesOf_inOrder (additions : List Addition) :
    clausesOf (inOrder additions) = clausesOf additions := by
  have hclause : ∀ addition : Addition, addition.isClause = false → addition.clause? = none := by
    rintro (_ | _) <;> simp [Addition.isClause, Addition.clause?]
  rw [inOrder, clausesOf, List.filterMap_append, filterMap_filter_of_kept hclause,
    filterMap_filter_of_kept (by simp +contextual [Addition.offer_eq_none_iff]),
    filterMap_filter_eq_nil (by simpa using hclause), List.append_nil, clausesOf]

theorem trailersOf_inOrder (additions : List Addition) :
    trailersOf (inOrder additions) = trailersOf additions := by
  have htrailer : ∀ addition : Addition, addition.isClause = true → addition.trailer? = none := by
    rintro (_ | _) <;> simp [Addition.isClause, Addition.trailer?]
  rw [inOrder, trailersOf, List.filterMap_append, filterMap_filter_eq_nil htrailer, List.nil_append,
    filterMap_filter_of_kept (by simpa using htrailer),
    filterMap_filter_of_kept (by simp +contextual [Addition.offer_eq_none_iff]), trailersOf]

theorem build_inOrder (header separator : String) (additions : List Addition) :
    build header separator (inOrder additions) = build header separator additions := by
  rw [build_eq, build_eq, clausesOf_inOrder, trailersOf_inOrder]

/-- What is built does not depend on the empty additions, nor on how clauses and trailers follow one
another. With nothing on offer its text is the fixed one; otherwise it is the header with its
clauses, if there are any, and the trailers behind. The fixed text comes out only of the empty
statement, and of trailers that spell it. -/
theorem text_build (header separator : String) (additions : List Addition) :
    let s := build header separator additions
    let clauses := clausesOf additions
    let trailers := trailersOf additions
    s = build header separator (inOrder additions) ∧
      s.isEmpty = additions.all (·.offer.isNone) ∧
      s.text = (if additions.all (·.offer.isNone) then noChanges
        else (if clauses = [] then ""
          else header ++ Text.concat (clauses.map (separator ++ ·)) ++ ";\n") ++
            Text.concat trailers) ∧
      (s.text = noChanges ↔
        s.isEmpty = true ∨ clauses = [] ∧ Text.concat trailers = noChanges) := by
  intro s clauses trailers
  have hs : s = ⟨header, separator, clauses, trailers⟩ := build_eq header separator additions
  have hempty : s.isEmpty = additions.all (·.offer.isNone) :=
    isEmpty_build header separator additions
  refine ⟨(build_inOrder header separator additions).symm, hempty, ?_, ?_⟩
  · rw [text, hempty, body, hs]
    simp only [List.isEmpty_iff]
  · rw [text_eq_noChanges_iff_or, hs]

example : (build "ALTER DOMAIN D" "\n"
    [.trailer (some "COMMIT;\n"), .clause none, .clause (some "DROP DEFAULT")]).text =
      "ALTER DOMAIN D\nDROP DEFAULT;\nCOMMIT;\n" := by decide

example : (build "ALTER USER U" "\n\t"
    [.trailer (some "/* there are "), .clause none, .trailer (some "no changes */")]).text =
      noChanges := by decide

end SchemaScript.AlterStatement
