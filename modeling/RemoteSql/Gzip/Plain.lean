import RemoteSql.Gzip.Member
import RemoteSql.Stream.Drain

/-!
# Plain octets of a source

A body may be a gzip member or not; its first two octets tell. Only the first read is looked at, so
a source whose first read yields a single octet passes for plain, and a first read that fails, even
one that was merely interrupted, fails the whole.
-/

namespace RemoteSql

/-- The octets of a source, inflated if the first read begins a gzip member. -/
def Source.plain (s : Source) : Except ReadFault Bytes :=
  match s.read Source.bufferSize with
  | (.error fault, _) => .error fault
  | (.ok first, s') =>
    let (bs, fault?) := s'.gather first.toArray
    if Gzip.isGzip first then
      match Gzip.member bs, fault? with
      | .ok held, _ => .ok held
      | .error .short, some fault => .error fault
      | .error _, _ => .error .corrupt
    else
      match fault? with
      | none => .ok bs
      | some fault => .error fault

end RemoteSql
