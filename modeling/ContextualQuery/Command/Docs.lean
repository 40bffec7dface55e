import ContextualQuery.Command.Error

/-!
# Documentation pages

The pages that the command line shows about the query language, by category.  A category has
several names; letter case does not count, and a hyphen stands for an underscore.
-/

namespace ContextualQuery
namespace Docs

/-- A subject of the documentation. -/
inductive Category
  /-- Search clauses, terms, quoting and groups. -/
  | grammar
  /-- Relations between index and term. -/
  | relations
  /-- Annotations of relations, operators and sort keys. -/
  | modifiers
  /-- Operators and how they associate. -/
  | booleans
  | prefixes
  | sorting
  | indexes
deriving DecidableEq, Repr

/-- The names of a category. -/
def Category.names : Category → List String
  | .grammar => ["syntax", "grammar"]
  | .relations => ["relations", "relation"]
  | .modifiers => ["modifiers", "modifier", "mods"]
  | .booleans => ["booleans", "boolean", "operators", "ops"]
  | .prefixes => ["prefixes", "prefix", "context_sets"]
  | .sorting => ["sorting", "sort", "sortby"]
  | .indexes => ["indexes", "index", "indices"]

/-- Every category. -/
def Category.all : List Category :=
  [.grammar, .relations, .modifiers, .booleans, .prefixes, .sorting, .indexes]

/-- The category with a name. -/
def Category.ofName? (name : String) : Option Category :=
  let key := name.toLower.map fun c => if c = '-' then '_' else c
  Category.all.find? fun category => category.names.contains key

/-- The list of categories and a short reference. -/
def overview : String :=
"CQL DOCUMENTATION

CQL, the Contextual Query Language, expresses searches as boolean
combinations of search clauses. A search clause names an index, a relation
and a term; index and relation may be left out.

DOCUMENTATION CATEGORIES

  syntax            Search clauses, terms, quoting and parentheses
  relations         =, ==, <>, <, >, <=, >=, adj, all, any, within, ...
  modifiers         /name and /name=value annotations
  booleans          and, or, not, prox and how they associate
  prefixes          > name = uri declarations and custom contexts
  sorting           sortBy keys and sort modifiers
  indexes           cql.serverChoice, cql.allRecords and friends

QUICK REFERENCE

  fish                          Term against cql.serverChoice
  dc.title = fish               Index, relation, term
  dc.title any \"fish frog\"      Quoted multi-word term
  title =/cql.word fish         Relation modifier
  a and (b or c)                Grouping
  fish sortBy dc.date/sort.descending

Run 'cql doc <category>' for detailed documentation.
"

/-- The page on search clauses and terms. -/
def grammarPage : String :=
"SYNTAX - Search Clauses and Terms

SEARCH CLAUSE
  index relation term
    The basic unit of a query.

    Example:
      dc.title = fish

  term
    A bare term searches cql.serverChoice with the = relation.

    Example:
      fish                  same as  cql.serverChoice = fish

TERMS
  Bare words end at whitespace or one of ( ) = < > /
  Quote a term to include those characters:

      dc.title = \"the lord of the rings\"
      isbn = \"0-8044-2957-X\"

  Inside quotes a backslash escapes the next character:

      title = \"say \\\"hi\\\"\"

  Backslashes are kept in the term, so masking characters can be
  escaped as well:

      title = \"a\\*b\"        literal asterisk

MULTI-WORD TERMS
  Without quotes, words after a term are joined into one term:

      a b c                 same as  \"a b c\"

  With --strict this is an error (\"relation expected\").

PARENTHESES
  ( query )
    Group clauses. A relation before a group applies to each term:

      dc.title = (fish or frog)

ERRORS
  Errors report a byte offset and mark it with a combining tilde:

      search term expected at position 7: dc.ti =̰
"

/-- The page on relations. -/
def relationsPage : String :=
"RELATIONS - Comparing Indexes and Terms

COMPARISON
  =     Default relation; server decides word or phrase matching
  ==    Exact equality
  <>    Not equal
  <  >  <=  >=
        Ordered comparison

WORD RELATIONS
  adj       Words appear adjacent, in order
  all       All words appear
  any       Any word appears
  within    Value lies within the range given by the term
  encloses  Value range encloses the term
  exact     Exact string match
  scr       Server choice relation

  Example:
    dc.title all \"fish frog\"
    year within \"1990 2000\"

QUALIFIED RELATIONS
  A dotted word whose prefix is bound acts as a relation:

      dc.title cql.exact fish
      > x = \"http://example.org/\" title x.near fish

  The cql prefix is always bound.
"

/-- The page on modifiers. -/
def modifiersPage : String :=
"MODIFIERS - Refining Relations, Booleans and Sort Keys

SYNTAX
  /name
  /name=value
  /name<comparison>value

  Modifiers follow a relation, a boolean operator or a sort index.

  Examples:
    dc.title any/relevant/cql.word fish
    title =/locale=en_US fish
    a prox/unit=word/distance>2 b
    sortBy dc.date/sort.descending

COMMON MODIFIERS
  cql.word, cql.string          Word or string matching
  cql.ignoreCase                Case-insensitive matching
  cql.masked, cql.unmasked      Whether * ? ^ are masking characters
  cql.distance, cql.unit        Proximity distance and unit
  cql.ordered, cql.unordered    Proximity ordering
"

/-- The page on operators. -/
def booleansPage : String :=
"BOOLEANS - Combining Clauses

OPERATORS
  and       Both sides match
  or        Either side matches
  not       Left side matches and right side does not
  prox      Both sides match near each other

  Operators are case-insensitive.

ASSOCIATION
  There is no precedence. Chains associate to the left:

      a and b or c          means  (a and b) or c
      a and (b or c)        keeps its parentheses

  Output drops parentheses that do not change the meaning:

      (a or b) and (c or d) prints as  a or b and (c or d)
"

/-- The page on declarations. -/
def prefixesPage : String :=
"PREFIXES - Context Sets

NAMED PREFIX
  > name = uri query
    Binds name to a context set for the query that follows. Dotted words
    qualified by name become relations.

    Example:
      > dc = \"info:srw/cql-context-set/1/dc-v1.1\" dc.title dc.exact fish

SCOPE
  A prefix covers the clause it precedes and everything nested in it.
  Declared inside parentheses it is invisible outside them:

      a or (> x = \"u\" b x.rel c)

UNNAMED PREFIX
  > uri query
    Sets the default context set. Any bare word after an index is then
    read as a relation:

      > \"http://example.org/\" title near fish
"

/-- The page on sort keys. -/
def sortingPage : String :=
"SORTING - sortBy

SYNTAX
  query sortBy index/modifiers index/modifiers ...

    Keys are listed in precedence order. The keyword is case-insensitive.

    Example:
      fish sortBy dc.date/sort.descending dc.title/sort.ascending

SORT MODIFIERS
  sort.ascending, sort.descending
  sort.ignoreCase, sort.respectCase
  sort.ignoreAccents, sort.respectAccents
  sort.missingOmit, sort.missingFail, sort.missingLow, sort.missingHigh
  sort.locale=<locale>
"

/-- The page on the well-known indexes. -/
def indexesPage : String :=
"INDEXES - Well-known cql Indexes

  cql.serverChoice   Default index when none is given
  cql.allRecords     Matches every record: cql.allRecords = 1
  cql.allIndexes     Term must match in all indexes
  cql.anyIndexes     Term may match in any index
  cql.keywords       Free-text keywords

DEFAULTS
  A search clause with index cql.serverChoice and relation = (or scr)
  prints as the bare term.
"

/-- The page of a category. -/
def Category.page : Category → String
  | .grammar => grammarPage
  | .relations => relationsPage
  | .modifiers => modifiersPage
  | .booleans => booleansPage
  | .prefixes => prefixesPage
  | .sorting => sortingPage
  | .indexes => indexesPage

/-- The page of the category with a name. -/
def page (name : String) : Except CommandError String :=
  match Category.ofName? name with
  | some category => .ok category.page
  | none => .error (.unknownCategory name)

end Docs
end ContextualQuery
