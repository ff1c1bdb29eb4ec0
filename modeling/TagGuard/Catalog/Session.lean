import TagGuard.Document.Catalog

namespace TagGuard.Catalog

inductive Request
  | add (name source : String)
  | addRule (name : String) (rule : Rule)
  | addWithin (limits : Limits) (name source : String)
  | find (name : String)
  | erase (name : String)
  | isEnabled (name : String) (ts : Option Tags)
  | enabled (ts : Option Tags)
  | size
  | isEmpty
  | save
  | load (document : Document)

inductive Answer
  | done
  | refused (refusal : Refusal)
  | unreadable (error : DecodeError)
  | found (rule : Option Rule)
  | truth (value : Bool)
  | names (names : List String)
  | count (n : Nat)
  | document (document : Document)

namespace Answer

-- The answer to a request for a changed catalog, and the catalog afterwards.
def ofChange {ε : Type} (c : Catalog) (failure : ε → Answer) : Except ε Catalog → Answer × Catalog
  | .ok c'   => (done, c')
  | .error e => (failure e, c)

def ofTruth : Except Refusal Bool → Answer
  | .ok b    => truth b
  | .error e => refused e

end Answer

def step (c : Catalog) : Request → Logged (Answer × Catalog)
  | .add name source              => changed (c.add name source).run
  | .addRule name rule            => changed (c.addRule name rule).run
  | .addWithin limits name source => changed (c.addWithin limits name source).run
  | .find name                    => return (.found (c.find? name), c)
  | .erase name                   => return (.found (c.find? name), c.erase name)
  | .isEnabled name ts            => return (.ofTruth (← (c.isEnabled name ts).run), c)
  | .enabled ts                   => return (.names (c.enabled ts), c)
  | .size                         => return (.count c.size, c)
  | .isEmpty                      => return (.truth c.isEmpty, c)
  | .save                         => return (.document c.toDocument, c)
  | .load d                       => Answer.ofChange c .unreadable <$> (ofDocument d).run
where
  changed (x : Logged (Except Refusal Catalog)) : Logged (Answer × Catalog) :=
    Answer.ofChange c .refused <$> x

def run (c : Catalog) : List Request → Logged (List Answer × Catalog)
  | []                  => return ([], c)
  | request :: requests => do
    let (answer, c) ← c.step request
    let (answers, c) ← c.run requests
    return (answer :: answers, c)

end TagGuard.Catalog
