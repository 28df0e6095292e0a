import Bearer.Cache.Shelf
import Bearer.Decimal.Reader
import Bearer.Decimal.Scaled
import Bearer.Decimal.Shortest
import Bearer.Digest.Adler32
import Bearer.Digest.Crc32
import Bearer.Digest.Hmac
import Bearer.Http.App
import Bearer.Http.Coding
import Bearer.Http.Wire
import Bearer.Json.Canonical
import Bearer.Json.Reader
import Bearer.Json.Record
import Bearer.Json.Writer
import Bearer.Log.Filter
import Bearer.Log.Pattern
import Bearer.Main
import Bearer.Mysql.Address
import Bearer.Mysql.Store
import Bearer.Net.Host
import Bearer.Packed.Bits
import Bearer.Packed.Brotli.Codes
import Bearer.Packed.Brotli.Context
import Bearer.Packed.Brotli.Forms
import Bearer.Packed.Brotli.Stream
import Bearer.Packed.Brotli.Words
import Bearer.Packed.Code
import Bearer.Packed.Deflate
import Bearer.Packed.Gzip
import Bearer.Packed.Unpacking
import Bearer.Packed.Zlib
import Bearer.Packed.Zstd.Frame
import Bearer.Packed.Zstd.Fse
import Bearer.Packed.Zstd.Prefixed
import Bearer.Packed.Zstd.Sequences
import Bearer.Proofs.Cache.Fresh
import Bearer.Proofs.Cache.Kept
import Bearer.Proofs.Cache.Tenants
import Bearer.Proofs.Decimal.Large
import Bearer.Proofs.Http.Identified
import Bearer.Proofs.Http.Returned
import Bearer.Proofs.Net.Masking
import Bearer.Proofs.Pool.Credentials
import Bearer.Proofs.Pool.Kinds
import Bearer.Proofs.Pool.Logout
import Bearer.Proofs.Pool.Revocation
import Bearer.Proofs.Pool.Serializable
import Bearer.Proofs.Pool.SingleUse
import Bearer.Proofs.Pool.Stored
import Bearer.Proofs.Pool.Unrepeated
import Bearer.Proofs.Redis.Waits
import Bearer.Proofs.Service.Lifespan
import Bearer.Proofs.Service.Rotation
import Bearer.Proofs.Service.Verdict
import Bearer.Proofs.Settings.Accepted
import Bearer.Proofs.Settings.Given
import Bearer.Proofs.Settings.Independent
import Bearer.Proofs.Settings.Integers
import Bearer.Proofs.Settings.Layers
import Bearer.Proofs.Settings.Lifetimes
import Bearer.Proofs.Settings.Lowest
import Bearer.Proofs.Settings.PoolBounds
import Bearer.Proofs.Settings.RoundTrip
import Bearer.Proofs.Settings.Secret
import Bearer.Proofs.Signing.Genuine
import Bearer.Proofs.Store.Kinds
import Bearer.Proofs.Text.Whole
import Bearer.Redis.Address
import Bearer.Redis.Client
import Bearer.Service.Introspect
import Bearer.Service.Surroundings
import Bearer.Settings.Dotenv
import Bearer.Settings.Load
import Bearer.Settings.Path
import Bearer.Settings.Variables
import Bearer.Signing.Compact
import Bearer.Startup.Service
import Bearer.Store.Directory
import Bearer.Store.Refresh
import Bearer.Text.Base64Url
import Bearer.Text.Case
import Bearer.Text.Hex
import Bearer.Text.Utf8
import Bearer.Time.Printed
import Bearer.Token
import Bearer.Uuid
