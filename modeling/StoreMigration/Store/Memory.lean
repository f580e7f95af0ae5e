import StoreMigration.Store.Buckets
import StoreMigration.Store.Program

/-! The store that keeps its objects as values. It never refuses a call. -/

namespace StoreMigration.Memory

def backend : Backend (Buckets Json)
  | .ensureBucket bucket, buckets => (.ok (), buckets.ensure bucket)
  | .get bucket key, buckets => (.ok (buckets.read bucket key), buckets)
  | .update bucket key value, buckets => (.ok (), buckets.write bucket key value)
  | .delete bucket key, buckets => (.ok (), buckets.delete bucket key)
  | .listKeys bucket, buckets => (.ok (buckets.keys bucket), buckets)

end StoreMigration.Memory
