import Fulfilment.Time.Instant

/-!
Where rejected rows go: `errors/<base>-<unix seconds>.csv` in the task's bucket, where `<base>`
is the last `/`-separated part of the object key once trailing slashes are removed.
-/

namespace Fulfilment

def keyBase (key : String) : String :=
  let trimmed := (key.toList.reverse.dropWhile (· = '/')).reverse
  String.ofList ((trimmed.reverse.takeWhile (· ≠ '/')).reverse)

def quarantineKey (key : String) (now : Instant) : String :=
  "errors/" ++ keyBase key ++ "-" ++ toString now.seconds ++ ".csv"

end Fulfilment
