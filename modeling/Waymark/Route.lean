import Waymark.Text.Blank

/-! # Routes

    A route is a slash followed by the non-empty segments on the way to an endpoint,
    joined by single slashes. Slashes at the ends of a segment do not count.
-/

namespace Waymark.Route

/-- A segment without slashes at its ends. -/
def bare (segment : String) : String :=
  Text.trimWhere (· == '/') segment

/-- The route with one more segment at its end. -/
def join (route segment : String) : String :=
  "/" ++ "/".intercalate ([bare route, bare segment].filter (· ≠ ""))

/-- The route along a chain of segments, outermost first. -/
def ofSegments (segments : List String) : String :=
  segments.foldl join ""

end Waymark.Route
